import Sprefence.EndMarker
import Sprefence.Isolation
import Sprefence.PictureCodec
import Sprefence.WebSource.LifeCycle

/-! The server and `web_source` at the two ends of the serial line. Bytes are under way in
both directions for any time, the device reads any part of what has arrived, and each
`port.Read` of the server finds any part of what the device has sent. -/

namespace Sprefence

open Runs EndMarker
open Server (Command)
open WebServer (Site Request Reaches Answered receiveLoop serve)
open WebSource (sendPicture PictureInv receiveStep)

structure Link where
  server : WebServer.State
  /-- The request for a picture in whose loop the server is, and the reads of the loop. -/
  serving : Option (Request × List (List UInt8))
  device : WebSource.State
  /-- What the server has written and the device has not read. -/
  down : List UInt8
  up : List UInt8
  /-- What the server has read. -/
  received : List UInt8
  /-- How many requests for a picture were accepted. -/
  asked : Nat
  /-- The bodies of their responses. -/
  shown : List (List UInt8)

namespace Link

/-- The bytes that the device has written to the line. -/
def sent (device : WebSource.State) : List UInt8 :=
  device.log.flatMap fun x =>
    match x.2 with
    | .picture stream => stream
    | _ => []

inductive Event
  | request (r : Request)
  /-- The device reads at most `n` bytes. -/
  | deviceRead (env : WebSource.Env) (n : Nat)
  /-- A `port.Read` finds at most `n` bytes. -/
  | portRead (n : Nat)

/-- Both programs have been started. -/
def init (ret : Int) (ret_ok : ret = 0 ∨ ret = -1) (sd : WebSource.SdCard) : Link :=
  ⟨.init, none, .init ret ret_ok sd, [], [], [], 0, []⟩

instance (site : Site) (r : Request) (path : String) : Decidable (Reaches site r path) :=
  inferInstanceAs (Decidable (_ ∧ _))

/-- The server accepts a request; it serves one at a time. -/
def accept (site : Site) (l : Link) (r : Request) : Link :=
  if l.server.status ≠ .running ∨ l.serving.isSome then l
  else if Reaches site r "/camera.jpg" then
    { l with serving := some (r, []), down := l.down ++ Command.camera.bytes, asked := l.asked + 1 }
  else
    let server := serve site l.server r
    { l with
      server := server
      down := l.down ++ (server.written.drop l.server.written.length).flatMap Command.bytes }

def deviceRead (l : Link) (env : WebSource.Env) (n : Nat) : Link :=
  let device := receiveStep l.device (env, l.down.take (min n 256))
  { l with
    device := device
    down := l.down.drop (min n 256)
    up := l.up ++ (sent device).drop (sent l.device).length }

/-- One iteration of the loop of `/camera.jpg`; when the loop ends, so does the request. -/
def portRead (site : Site) (l : Link) (n : Nat) : Link :=
  match l.serving with
  | none => l
  | some (r, reads) =>
    let reads := reads ++ [l.up.take n]
    let l := { l with up := l.up.drop n, received := l.received ++ l.up.take n }
    match receiveLoop l.server.m_buffer 0 reads with
    | .waiting _ _ => { l with serving := some (r, reads) }
    | _ =>
      let server := serve site l.server { r with reads := reads }
      { l with
        server := server
        serving := none
        shown := l.shown ++ (server.responses.drop l.server.responses.length).map (·.body) }

def step (site : Site) (l : Link) : Event → Link
  | .request r => l.accept site r
  | .deviceRead env n => l.deviceRead env n
  | .portRead n => l.portRead site n

/-! ## The device -/

/-- Between `s` and `t` the device has sent nothing, or a picture. -/
def SendsOne (s t : WebSource.State) : Prop :=
  sent t = sent s ∧ t.pictures = s.pictures ∨
    ∃ mem usedLen, sent t = sent s ++ sendPicture mem usedLen ∧ t.pictures = s.pictures + 1

theorem sendsOne_of_log {s t : WebSource.State} {e : WebSource.Effect} {n : Nat}
    (h : t.log = s.log ++ [(n, e)]) (he : e.isPicture = false) : SendsOne s t := by
  left
  cases e with
  | picture stream => cases he
  | hazardIni file => simp [sent, WebSource.State.pictures, h, WebSource.Effect.isPicture]
  | switchIni file => simp [sent, WebSource.State.pictures, h, WebSource.Effect.isPicture]
  | ended => simp [sent, WebSource.State.pictures, h, WebSource.Effect.isPicture]

theorem receive_sendsOne (env : WebSource.Env) (s : WebSource.State) (bytes : List UInt8) :
    SendsOne s (WebSource.receive env s bytes) := by
  rw [WebSource.receive_eq]
  cases WebSource.recognise bytes with
  | camera =>
    show SendsOne s (WebSource.cameraCommand env s)
    unfold WebSource.cameraCommand
    dsimp only
    split
    · exact sendsOne_of_log rfl rfl
    · split
      · exact sendsOne_of_log rfl rfl
      · split
        · split
          · exact sendsOne_of_log rfl rfl
          · refine .inr ⟨[], s.usedLen, ?_⟩
            split
            · simp [sent, WebSource.State.pictures, WebSource.State.emit, WebSource.State.crash,
                WebSource.Effect.isPicture]
            · simp [sent, WebSource.State.pictures, WebSource.State.emit, WebSource.State.finish,
                WebSource.Effect.isPicture]
        · rename_i f _
          refine .inr ⟨f.mem, f.bytesused, ?_⟩
          split
          · simp [sent, WebSource.State.pictures, WebSource.State.emit, WebSource.Effect.isPicture]
          · simp [sent, WebSource.State.pictures, WebSource.State.emit, WebSource.State.finish,
              WebSource.Effect.isPicture]
  | set =>
    show SendsOne s (WebSource.setCommand env _ s)
    unfold WebSource.setCommand
    split
    · exact sendsOne_of_log rfl rfl
    · exact sendsOne_of_log rfl rfl
  | on =>
    show SendsOne s (WebSource.onCommand env _ s)
    unfold WebSource.onCommand
    split
    · exact sendsOne_of_log rfl rfl
    · exact sendsOne_of_log rfl rfl
  | nothing => exact .inl ⟨rfl, rfl⟩

theorem receiveStep_sendsOne (s : WebSource.State) (i : WebSource.Env × List UInt8) :
    SendsOne s (receiveStep s i) := by
  by_cases hs : s.status = .running
  · have h := receive_sendsOne i.1 s i.2
    rw [receiveStep, WebSource.step_data s hs]
    dsimp only
    split_ifs
    · exact h
    · exact h
  · rw [WebSource.receiveStep_ended s hs]
    exact .inl ⟨rfl, rfl⟩

/-- The device has sent nothing or one picture. -/
structure DeviceInv (s : WebSource.State) : Prop where
  pictures : PictureInv s
  sent : s.pictures = 0 ∧ sent s = [] ∨ s.pictures = 1 ∧ ∃ mem usedLen, sent s = sendPicture mem usedLen

/-- What was sent stays, and after a picture nothing is added. -/
theorem DeviceInv.receiveStep {s : WebSource.State} (h : DeviceInv s)
    (i : WebSource.Env × List UInt8) :
    DeviceInv (receiveStep s i) ∧ Link.sent s <+: Link.sent (WebSource.receiveStep s i) ∧
      (s.pictures = 1 → Link.sent (WebSource.receiveStep s i) = Link.sent s ∧
        (WebSource.receiveStep s i).pictures = 1) := by
  have hinv : PictureInv (WebSource.receiveStep s i) :=
    WebSource.pictureInv_step s (i.1, .data i.2) h.pictures
  obtain ⟨hsent, hpictures⟩ | ⟨mem, usedLen, hsent, hpictures⟩ := receiveStep_sendsOne s i
  · refine ⟨⟨hinv, ?_⟩, ?_, fun hone => ⟨hsent, hpictures.trans hone⟩⟩
    · rw [hsent, hpictures]
      exact h.sent
    · rw [hsent]
  · have hle := hinv.pictures_le
    obtain ⟨hzero, hnil⟩ | ⟨hone, -⟩ := h.sent
    · refine ⟨⟨hinv, .inr ⟨by omega, mem, usedLen, ?_⟩⟩, ?_, fun hone => by omega⟩
      · rw [hsent, hnil, List.nil_append]
      · rw [hnil]
        exact List.nil_prefix
    · omega

/-! ## The server -/

section Server

variable {site : Site} {s : WebServer.State} (hs : s.status = .running) {r : Request}
  (hr : Reaches site r "/camera.jpg") {reads : List (List UInt8)}
include hs hr

theorem serve_camera : serve site s { r with reads := reads } = s.camera "/camera.jpg" reads := by
  rw [serve, if_neg (not_not_intro hs)]
  dsimp only
  rw [hr.1]
  dsimp only
  rw [if_neg hr.2, if_pos rfl]

theorem serve_done {b : WebServer.Buffer} {size : Nat} {rest : List (List UInt8)}
    (h : receiveLoop s.m_buffer 0 reads = .done b size rest) :
    (serve site s { r with reads := reads }).status = .running ∧
      ∃ read, read ++ rest = reads ∧ WebServer.endWord <:+ read.flatten ∧
        (serve site s { r with reads := reads }).responses =
          s.responses ++ [⟨200, Isolation.picture read.flatten⟩] := by
  obtain ⟨read, hread, -, hholds, hsize, hend⟩ :=
    WebServer.receiveLoop_done s.m_buffer.holds_nil reads h
  rw [List.nil_append] at hholds hsize hend
  have hpicture := Isolation.decodeLoop_front hholds
  rw [← hsize] at hpicture
  rw [serve_camera hs hr]
  simp only [WebServer.State.camera, WebServer.State.write, h, hpicture]
  exact ⟨hs, read, hread, hend, rfl⟩

theorem serve_threw {b : WebServer.Buffer} {e : WebServer.Exn}
    (h : receiveLoop s.m_buffer 0 reads = .threw b e) :
    (serve site s { r with reads := reads }).status ≠ .running ∧
      (serve site s { r with reads := reads }).responses = s.responses := by
  rw [serve_camera hs hr]
  simp only [WebServer.State.camera, WebServer.State.write, h]
  exact ⟨WebServer.Status.noConfusion, rfl⟩

end Server

/-! ## Whole runs -/

/-- How far the requests for a picture have got. After the first one everything that the device
will ever send has been read. -/
inductive Phase (site : Site) (l : Link) : Prop
  | unasked (running : l.server.status = .running) (idle : l.serving = none) (asked : l.asked = 0)
      (shown : l.shown = []) (received : l.received = [])
  | first (running : l.server.status = .running) (r : Request) (reads : List (List UInt8))
      (serving : l.serving = some (r, reads)) (reaches : Reaches site r "/camera.jpg")
      (asked : l.asked = 1) (shown : l.shown = []) (received : l.received = reads.flatten)
  | answered (running : l.server.status = .running) (idle : l.serving = none) (asked : l.asked = 1)
      (one : l.device.pictures = 1) (shown : l.shown = [Isolation.picture (sent l.device)])
      (received : l.received = sent l.device)
  | second (running : l.server.status = .running) (r : Request) (serving : l.serving = some (r, []))
      (reaches : Reaches site r "/camera.jpg") (one : l.device.pictures = 1)
      (shown : l.shown = [Isolation.picture (sent l.device)]) (received : l.received = sent l.device)
  | ended (ended : l.server.status ≠ .running) (idle : l.serving = none)
      (shown : l.shown = [] ∨
        l.device.pictures = 1 ∧ l.shown = [Isolation.picture (sent l.device)])

structure Inv (site : Site) (l : Link) : Prop where
  device : DeviceInv l.device
  line : l.received ++ l.up = sent l.device
  phase : Phase site l

theorem accept_busy {site : Site} {l : Link} (r : Request)
    (h : l.server.status ≠ .running ∨ l.serving.isSome) : l.accept site r = l := if_pos h

theorem accept_camera {site : Site} {l : Link} {r : Request} (hs : l.server.status = .running)
    (hidle : l.serving = none) (hr : Reaches site r "/camera.jpg") :
    l.accept site r = { l with
      serving := some (r, []), down := l.down ++ Command.camera.bytes, asked := l.asked + 1 } := by
  rw [accept, if_neg (by simp [hs, hidle]), if_pos hr]

theorem accept_other {site : Site} {l : Link} {r : Request} (hs : l.server.status = .running)
    (hidle : l.serving = none) (hr : ¬ Reaches site r "/camera.jpg") :
    ∃ down, l.accept site r = { l with server := serve site l.server r, down := down } := by
  rw [accept, if_neg (by simp [hs, hidle]), if_neg hr]
  exact ⟨_, rfl⟩

theorem accept_inv {site : Site} {l : Link} (h : Inv site l) (r : Request) :
    Inv site (l.accept site r) := by
  have hline := h.line
  cases h.phase with
  | first running r' reads serving reaches asked shown received =>
    rw [accept_busy r (.inr (by rw [serving]; rfl))]
    exact h
  | second running r' serving reaches one shown received =>
    rw [accept_busy r (.inr (by rw [serving]; rfl))]
    exact h
  | ended hended idle shown =>
    rw [accept_busy r (.inl hended)]
    exact h
  | unasked running idle asked shown received =>
    by_cases hr : Reaches site r "/camera.jpg"
    · rw [accept_camera running idle hr]
      exact ⟨h.device, hline, .first running r [] rfl hr (by rw [asked]) shown received⟩
    · obtain ⟨down, heq⟩ := accept_other running idle hr
      rw [heq]
      refine ⟨h.device, hline, ?_⟩
      by_cases hrun : (serve site l.server r).status = .running
      · exact .unasked hrun idle asked shown received
      · exact .ended hrun idle (.inl shown)
  | answered running idle asked one shown received =>
    by_cases hr : Reaches site r "/camera.jpg"
    · rw [accept_camera running idle hr]
      exact ⟨h.device, hline, .second running r rfl hr one shown received⟩
    · obtain ⟨down, heq⟩ := accept_other running idle hr
      rw [heq]
      refine ⟨h.device, hline, ?_⟩
      by_cases hrun : (serve site l.server r).status = .running
      · exact .answered hrun idle asked one shown received
      · exact .ended hrun idle (.inr ⟨one, shown⟩)

theorem deviceRead_inv {site : Site} {l : Link} (h : Inv site l) (env : WebSource.Env) (n : Nat) :
    Inv site (l.deviceRead env n) := by
  obtain ⟨hdevice, ⟨new, hnew⟩, hone⟩ := h.device.receiveStep (env, l.down.take (min n 256))
  refine ⟨hdevice, ?_, ?_⟩
  · show l.received ++ (l.up ++ (sent (receiveStep l.device _)).drop (sent l.device).length) =
      sent (receiveStep l.device _)
    rw [← List.append_assoc, h.line, ← hnew, List.drop_left]
  · cases h.phase with
    | unasked running idle asked shown received => exact .unasked running idle asked shown received
    | first running r reads serving reaches asked shown received =>
      exact .first running r reads serving reaches asked shown received
    | answered running idle asked one shown received =>
      obtain ⟨hsent, hpictures⟩ := hone one
      refine .answered running idle asked hpictures ?_ (received.trans hsent.symm)
      exact shown.trans (congrArg (fun x => [Isolation.picture x]) hsent.symm)
    | second running r serving reaches one shown received =>
      obtain ⟨hsent, hpictures⟩ := hone one
      refine .second running r serving reaches hpictures ?_ (received.trans hsent.symm)
      exact shown.trans (congrArg (fun x => [Isolation.picture x]) hsent.symm)
    | ended hended idle shown =>
      refine .ended hended idle ?_
      obtain hnone | ⟨one, hshown⟩ := shown
      · exact .inl hnone
      · obtain ⟨hsent, hpictures⟩ := hone one
        exact .inr ⟨hpictures, hshown.trans (congrArg (fun x => [Isolation.picture x]) hsent.symm)⟩

/-- The marker is behind the whole picture, so the first request reads all of it. -/
theorem first_portRead_inv {site : Site} {l : Link} (h : Inv site l) (n : Nat) {r : Request}
    {reads : List (List UInt8)} (running : l.server.status = .running)
    (serving : l.serving = some (r, reads)) (reaches : Reaches site r "/camera.jpg")
    (asked : l.asked = 1) (shown : l.shown = []) (received : l.received = reads.flatten) :
    Inv site (l.portRead site n) := by
  have hline : l.received ++ l.up.take n ++ l.up.drop n = sent l.device := by
    rw [List.append_assoc, List.take_append_drop]
    exact h.line
  have hreads : l.received ++ l.up.take n = (reads ++ [l.up.take n]).flatten := by
    rw [received, List.flatten_append, List.flatten_singleton]
  unfold portRead
  rw [serving]
  dsimp only
  cases hloop : receiveLoop l.server.m_buffer 0 (reads ++ [l.up.take n]) with
  | waiting b size => exact ⟨h.device, hline, .first running r _ rfl reaches asked shown hreads⟩
  | threw b e =>
    obtain ⟨hended, hresponses⟩ := serve_threw running reaches hloop
    refine ⟨h.device, hline, .ended hended rfl (.inl ?_)⟩
    dsimp only
    rw [hresponses, List.drop_length, shown]
    rfl
  | done b size rest =>
    obtain ⟨hrun, read, hread, hend, hresponses⟩ := serve_done running reaches hloop
    have hsofar : read.flatten <+: sent l.device := by
      refine ⟨rest.flatten ++ l.up.drop n, ?_⟩
      rw [← List.append_assoc, ← List.flatten_append, hread, ← hreads, hline]
    obtain ⟨-, hnil⟩ | ⟨hone, mem, usedLen, hsent⟩ := h.device.sent
    · rw [hnil, List.prefix_nil] at hsofar
      rw [hsofar] at hend
      exact absurd hend.length_le (by decide)
    · have hall : read.flatten = sent l.device := by
        rw [hsent] at hsofar ⊢
        exact eq_of_endWord_suffix mem usedLen _ hsofar hend
      refine ⟨h.device, hline, .answered hrun rfl asked hone ?_ ?_⟩
      · dsimp only
        rw [hresponses, List.drop_left, shown, hall]
        rfl
      · show l.received ++ l.up.take n = sent l.device
        have hrest : rest.flatten ++ l.up.drop n = [] := by
          refine List.append_right_eq_self.mp (?_ : read.flatten ++ _ = read.flatten)
          rw [← List.append_assoc, ← List.flatten_append, hread, ← hreads, hline, hall]
        rw [← hline, (List.append_eq_nil_iff.mp hrest).2, List.append_nil]

/-- The second request finds nothing to read, and the loop of the server ends. -/
theorem portRead_nothing {site : Site} {l : Link} (n : Nat) {r : Request}
    (running : l.server.status = .running) (serving : l.serving = some (r, []))
    (reaches : Reaches site r "/camera.jpg") (hup : l.up = []) :
    ∃ server, server.status ≠ .running ∧
      l.portRead site n = { l with server := server, serving := none } := by
  obtain ⟨b, hloop⟩ := WebServer.receiveLoop_short l.server.m_buffer 0 [] [] (by decide)
  obtain ⟨hended, hresponses⟩ := serve_threw running reaches hloop
  refine ⟨serve site l.server { r with reads := [[]] }, hended, ?_⟩
  rw [portRead, serving, hup, List.take_nil, List.drop_nil]
  dsimp only
  rw [List.nil_append, hloop]
  dsimp only
  rw [hresponses, List.drop_length, List.map_nil, List.append_nil, List.append_nil, ← hup]

theorem second_portRead_inv {site : Site} {l : Link} (h : Inv site l) (n : Nat) {r : Request}
    (running : l.server.status = .running) (serving : l.serving = some (r, []))
    (reaches : Reaches site r "/camera.jpg") (one : l.device.pictures = 1)
    (shown : l.shown = [Isolation.picture (sent l.device)])
    (received : l.received = sent l.device) : Inv site (l.portRead site n) := by
  have hup : l.up = [] := by
    have hline := h.line
    rw [received] at hline
    exact List.append_right_eq_self.mp hline
  obtain ⟨server, hended, hread⟩ := portRead_nothing n running serving reaches hup
  rw [hread]
  exact ⟨h.device, h.line, .ended hended rfl (.inr ⟨one, shown⟩)⟩

theorem portRead_inv {site : Site} {l : Link} (h : Inv site l) (n : Nat) :
    Inv site (l.portRead site n) := by
  have hidle : l.serving = none → l.portRead site n = l := by
    intro hnone
    rw [portRead, hnone]
  cases h.phase with
  | unasked _ idle | answered _ idle | ended _ idle =>
    rw [hidle idle]
    exact h
  | first running r reads serving reaches asked shown received =>
    exact first_portRead_inv h n running serving reaches asked shown received
  | second running r serving reaches one shown received =>
    exact second_portRead_inv h n running serving reaches one shown received

theorem step_inv (site : Site) (l : Link) (e : Event) (h : Inv site l) : Inv site (step site l e) := by
  cases e with
  | request r => exact accept_inv h r
  | deviceRead env n => exact deviceRead_inv h env n
  | portRead n => exact portRead_inv h n

theorem init_inv (site : Site) (ret : Int) (ret_ok : ret = 0 ∨ ret = -1) (sd : WebSource.SdCard) :
    Inv site (init ret ret_ok sd) where
  device := ⟨⟨fun _ => .inl ⟨⟨show (-1 : Int) < 0 by decide, rfl⟩, rfl⟩, Nat.zero_le 1⟩,
    .inl ⟨rfl, rfl⟩⟩
  line := rfl
  phase := .unasked rfl rfl rfl rfl rfl

theorem run_inv (site : Site) (ret : Int) (ret_ok : ret = 0 ∨ ret = -1) (sd : WebSource.SdCard)
    (es : List Event) : Inv site (run (step site) (init ret ret_ok sd) es) :=
  run_invariant (step site) (Inv site) (fun l e h => step_inv site l e h) _
    (init_inv site ret ret_ok sd) es

/-! ## The answer to the first request -/

/-- Everything works, and the camera captures `f`. -/
def capturing (f : WebSource.Capture) : WebSource.Env :=
  ⟨⟨true, 3, true, true, true, true, true, some ⟨f.mem, f.usedLen⟩⟩, true, true⟩

/-- The device answers the first request with the picture. -/
theorem sent_capturing (f : WebSource.Capture) (ret : Int) (ret_ok : ret = 0 ∨ ret = -1)
    (sd : WebSource.SdCard) :
    sent (receiveStep (.init ret ret_ok sd) (capturing f, Command.camera.bytes)) =
      sendPicture f.mem f.usedLen := by
  have hlog : (receiveStep (.init ret ret_ok sd) (capturing f, Command.camera.bytes)).log =
      [(0, .picture (sendPicture f.mem f.usedLen))] := rfl
  rw [sent, hlog, List.flatMap_singleton]

theorem deviceRead_capturing {l : Link} {ret : Int} {ret_ok : ret = 0 ∨ ret = -1}
    {sd : WebSource.SdCard} (hdevice : l.device = .init ret ret_ok sd)
    (hdown : l.down = Command.camera.bytes) (hup : l.up = []) (f : WebSource.Capture) :
    ∃ device, sent device = sendPicture f.mem f.usedLen ∧
      l.deviceRead (capturing f) 6 =
        { l with device := device, down := [], up := sendPicture f.mem f.usedLen } := by
  have htake : l.down.take (min 6 256) = Command.camera.bytes := by
    rw [hdown]
    decide
  have hdrop : l.down.drop (min 6 256) = [] := by
    rw [hdown]
    decide
  have hnone : (sent l.device).length = 0 := by
    rw [hdevice]
    rfl
  have hsent := sent_capturing f ret ret_ok sd
  rw [← hdevice] at hsent
  refine ⟨receiveStep l.device (capturing f, Command.camera.bytes), hsent, ?_⟩
  rw [deviceRead, htake, hdrop, hnone, hsent, hup, List.drop_zero, List.nil_append]

/-- The request ends when the whole stream is read. -/
theorem portRead_done {site : Site} {l : Link} {n : Nat} {r : Request} {b : WebServer.Buffer}
    {size : Nat} {rest : List (List UInt8)} (running : l.server.status = .running)
    (serving : l.serving = some (r, [])) (reaches : Reaches site r "/camera.jpg")
    (hloop : receiveLoop l.server.m_buffer 0 [l.up.take n] = .done b size rest) :
    (l.portRead site n).server.status = .running ∧ (l.portRead site n).serving = none ∧
      (l.portRead site n).asked = l.asked ∧ (l.portRead site n).device = l.device := by
  obtain ⟨hdone, -⟩ := serve_done running reaches hloop
  rw [portRead, serving]
  dsimp only
  rw [List.nil_append, hloop]
  exact ⟨hdone, rfl, rfl, rfl⟩

/-- The first request is answered, if the whole picture is there when the server reads. -/
theorem first_answer (site : Site) {ret : Int} (ret_ok : ret = 0 ∨ ret = -1) (sd : WebSource.SdCard)
    (f : WebSource.Capture) (hf : f.mem.length ≤ WebSource.fSize) {r : Request}
    (hr : Reaches site r "/camera.jpg") {n : Nat} (hn : (sendPicture f.mem f.usedLen).length ≤ n) :
    let l := run (step site) (init ret ret_ok sd)
      [.request r, .deviceRead (capturing f) 6, .portRead n]
    l.server.status = .running ∧ l.serving = none ∧ l.up = [] ∧ l.asked = 1 ∧
      l.shown = [Isolation.picture (sendPicture f.mem f.usedLen)] := by
  intro l
  have hinv : Inv site l := run_inv site ret ret_ok sd _
  have hten : 10 ≤ (sendPicture f.mem f.usedLen).length :=
    (endWord_suffix_sendPicture f.mem f.usedLen).length_le
  obtain ⟨b, rest, hloop, -, -⟩ := receiveLoop_sendPicture f.mem f.usedLen
    (init ret ret_ok sd).server.m_buffer [sendPicture f.mem f.usedLen] (by rw [List.flatten_singleton])
    (by rw [List.headD_cons]; exact hten) (length_sendPicture_le f hf)
  -- the state before the server reads
  obtain ⟨l₂, hl, hserver, hserving, hup, hasked₂, hsent⟩ : ∃ l₂ : Link, l = l₂.portRead site n ∧
      l₂.server = (init ret ret_ok sd).server ∧ l₂.serving = some (r, []) ∧
      l₂.up = sendPicture f.mem f.usedLen ∧ l₂.asked = 1 ∧
      sent l₂.device = sendPicture f.mem f.usedLen := by
    obtain ⟨device, hsent, hread⟩ := deviceRead_capturing
      (l := { init ret ret_ok sd with serving := some (r, []), down := Command.camera.bytes, asked := 1 })
      rfl rfl rfl f
    refine ⟨{ init ret ret_ok sd with
      serving := some (r, []), device := device, down := [], up := sendPicture f.mem f.usedLen,
      asked := 1 }, ?_, rfl, rfl, rfl, rfl, hsent⟩
    simp only [l, run_cons, run_nil, step]
    rw [accept_camera rfl rfl hr]
    exact congrArg (fun l => portRead site l n) hread
  rw [← hserver, ← List.take_of_length_le hn, ← hup] at hloop
  obtain ⟨hstatus, hidle, hasked, hdevice⟩ := portRead_done (hserver ▸ rfl) hserving hr hloop
  rw [← hl] at hstatus hidle hasked hdevice
  cases hinv.phase with
  | unasked running idle asked shown received => omega
  | first running r reads serving reaches asked shown received =>
    rw [hidle] at serving
    cases serving
  | answered running idle asked one shown received =>
    have hline := hinv.line
    rw [received] at hline
    rw [hdevice, hsent] at shown
    exact ⟨hstatus, hidle, List.append_right_eq_self.mp hline, asked, shown⟩
  | second running r serving reaches one shown received =>
    rw [hidle] at serving
    cases serving
  | ended hended idle shown => exact absurd hstatus hended

/-- The next request is not answered, and the loop of the server ends with it. -/
theorem second_answer {site : Site} {l : Link} {r : Request} (hrunning : l.server.status = .running)
    (hidle : l.serving = none) (hup : l.up = []) (hr : Reaches site r "/camera.jpg") (n : Nat) :
    (run (step site) l [.request r, .portRead n]).asked = l.asked + 1 ∧
      (run (step site) l [.request r, .portRead n]).server.status ≠ .running ∧
      (run (step site) l [.request r, .portRead n]).shown = l.shown := by
  obtain ⟨l', hl', hrunning', hserving, hup', hasked, hshown⟩ : ∃ l', l.accept site r = l' ∧
      l'.server.status = .running ∧ l'.serving = some (r, []) ∧ l'.up = [] ∧
      l'.asked = l.asked + 1 ∧ l'.shown = l.shown :=
    ⟨_, accept_camera hrunning hidle hr, hrunning, rfl, hup, rfl, rfl⟩
  obtain ⟨server, hended, hread⟩ := portRead_nothing n hrunning' hserving hr hup'
  rw [run_cons, run_cons, run_nil, step, step, hl', hread]
  exact ⟨hasked, hended, hshown⟩

/-! ## At most one picture -/

/-- However the bytes travel and whatever else is asked for, the server shows at most one picture
in the life of the device program, and that one is decoded from the whole picture that the device
sent. The server that waits for a request has accepted at most one for a picture: the second
request is never answered and the loop of the server ends with it. -/
theorem one_picture (site : Site) (ret : Int) (ret_ok : ret = 0 ∨ ret = -1) (sd : WebSource.SdCard)
    (es : List Event) :
    let l := run (step site) (init ret ret_ok sd) es
    (l.shown = [] ∨ ∃ mem usedLen, sent l.device = sendPicture mem usedLen ∧
      l.shown = [Isolation.picture (sendPicture mem usedLen)]) ∧
    (l.server.status = .running → l.serving = none → l.asked = l.shown.length) := by
  intro l
  have hinv : Inv site l := run_inv site ret ret_ok sd es
  have hsent : l.device.pictures = 1 → ∃ mem usedLen, sent l.device = sendPicture mem usedLen := by
    intro hone
    obtain ⟨hzero, -⟩ | ⟨-, h⟩ := hinv.device.sent
    · omega
    · exact h
  cases hinv.phase with
  | unasked running idle asked shown received => exact ⟨.inl shown, fun _ _ => by rw [asked, shown]; rfl⟩
  | first running r reads serving reaches asked shown received =>
    exact ⟨.inl shown, fun _ hidle => by rw [serving] at hidle; cases hidle⟩
  | answered running idle asked one shown received =>
    obtain ⟨mem, usedLen, hs⟩ := hsent one
    exact ⟨.inr ⟨mem, usedLen, hs, hs ▸ shown⟩, fun _ _ => by rw [asked, shown]; rfl⟩
  | second running r serving reaches one shown received =>
    obtain ⟨mem, usedLen, hs⟩ := hsent one
    exact ⟨.inr ⟨mem, usedLen, hs, hs ▸ shown⟩, fun _ hidle => by rw [serving] at hidle; cases hidle⟩
  | ended hended idle shown =>
    refine ⟨?_, fun hrun => absurd hrun hended⟩
    obtain hnone | ⟨one, hshown⟩ := shown
    · exact .inl hnone
    · obtain ⟨mem, usedLen, hs⟩ := hsent one
      exact .inr ⟨mem, usedLen, hs, hs ▸ hshown⟩

/-- A capture with seven bytes of JPEG data. -/
def sevenBytes : WebSource.Capture where
  yuv := List.replicate WebSource.yuvSize 16
  jpg := [0xff, 0xd8, 2, 4, 8, 0xff, 0xd9]
  yuv_length := List.length_replicate

/-- A picture is asked for twice. The first one is shown, and the loop of the server ends with
the second request. -/
theorem one_picture_asked_twice :
    let r : Request := ⟨some "/camera.jpg", "GET", "", []⟩
    ∃ l, run (step WebServer.emptySite) (init 0 (.inl rfl) ⟨none, none, none⟩)
        ([.request r, .deviceRead (capturing sevenBytes) 6, .portRead 18] ++
          [.request r, .portRead 18]) = l ∧
      l.asked = 2 ∧ l.server.status ≠ .running ∧ l.shown = [sevenBytes.jpg] ∧
      ∃ mem usedLen, sent l.device = sendPicture mem usedLen ∧
        l.shown = [Isolation.picture (sendPicture mem usedLen)] := by
  intro r
  have hr : Reaches WebServer.emptySite r "/camera.jpg" := ⟨rfl, by simp [WebServer.emptySite]⟩
  have hf : sevenBytes.mem.length ≤ WebSource.fSize :=
    (Arrival.length_mem sevenBytes).trans_le (by decide)
  have hlength : (sendPicture sevenBytes.mem sevenBytes.usedLen).length ≤ 18 := by
    rw [sendPicture, List.length_append, PictureCodec.length_encodeLoop]
    decide
  have hpicture : Isolation.picture (sendPicture sevenBytes.mem sevenBytes.usedLen) = sevenBytes.jpg :=
    Option.some.inj ((Isolation.decodeLoop_front (List.prefix_append _ [])).symm.trans
      (PictureCodec.decodeLoop_full sevenBytes [] (by decide)))
  have hfirst := first_answer WebServer.emptySite (.inl rfl) ⟨none, none, none⟩ sevenBytes hf hr hlength
  have hone := (one_picture WebServer.emptySite 0 (.inl rfl) ⟨none, none, none⟩
    ([.request r, .deviceRead (capturing sevenBytes) 6, .portRead 18] ++ [.request r, .portRead 18])).1
  rw [run_append] at hone ⊢
  generalize run (step WebServer.emptySite) (init 0 (.inl rfl) ⟨none, none, none⟩)
    [.request r, .deviceRead (capturing sevenBytes) 6, .portRead 18] = l₃ at hfirst hone ⊢
  obtain ⟨hrunning, hidle, hup, hasked, hshown⟩ := hfirst
  have hsecond := second_answer hrunning hidle hup hr 18
  generalize run (step WebServer.emptySite) l₃ [.request r, .portRead 18] = l at hsecond hone ⊢
  obtain ⟨hasked₂, hended, hshown₂⟩ := hsecond
  rw [hshown, hpicture] at hshown₂
  refine ⟨l, rfl, by rw [hasked₂, hasked], hended, hshown₂, hone.resolve_left ?_⟩
  rw [hshown₂]
  exact List.cons_ne_nil _ _

end Link

end Sprefence
