import Sprefence.Lib.Runs
import Sprefence.Server.Calibration
import Sprefence.Server.Decoder

/-! The requests in `WebServer.Run`. There is no handler around the code for a
request, so an exception ends the loop. Reading the listed files, writing to the
port and writing the response succeed. -/

namespace Sprefence.WebServer

open CBytes Runs Server

/-- The class `Command` of a request's body. -/
structure CommandBody where
  type : Option String
  deriving DecidableEq, Repr

/-- What the server finds on its disk and in its library. -/
structure Site where
  m_contents : List String
  /-- `File.ReadAllBytes("contents" + path)`. -/
  file : String → List UInt8
  /-- `JsonSerializer.Deserialize<Points>`: the outer `none` is an exception, the
  inner one null. -/
  deserializePoints : String → Option (Option Points)
  deserializeCommand : String → Option (Option CommandBody)

structure Request where
  /-- `request?.Url?.LocalPath`. -/
  requestPath : Option String
  httpMethod : String
  body : String
  /-- What the device sends while the request is served, read by read. -/
  reads : List (List UInt8)
  deriving DecidableEq, Repr

structure Response where
  statusCode : Nat
  body : List UInt8
  deriving DecidableEq, Repr

inductive Status
  | running
  | threw (e : Exn)
  /-- The loop of `/camera.jpg` goes on without an end marker. -/
  | receiving
  deriving DecidableEq, Repr

structure State where
  status : Status
  m_buffer : Buffer
  /-- The calls of `port.Write`, in order. -/
  written : List Command
  /-- The responses that were closed, in order. -/
  responses : List Response
  /-- What was added to the text of `m_logBox`. -/
  log : List String

def State.init : State := ⟨.running, .init, [], [], []⟩

def resOK : List UInt8 := ascii "\x7b\"result\":\"OK\"\x7d"

def State.write (s : State) (c : Command) : State := { s with written := s.written ++ [c] }

def State.note (s : State) (text : String) : State := { s with log := s.log ++ [text] }

def State.throw (s : State) (e : Exn) : State := { s with status := .threw e }

/-- `response.Close()`. -/
def State.close (s : State) (statusCode : Nat) (body : List UInt8) : State :=
  { s with responses := s.responses ++ [⟨statusCode, body⟩] }

/-- `/camera.jpg`. -/
def State.camera (s : State) (requestPath : String) (reads : List (List UInt8)) : State :=
  let s := s.write .camera
  match receiveLoop s.m_buffer 0 reads with
  | .threw m_buffer e => { s with m_buffer := m_buffer }.throw e
  | .waiting m_buffer _ => { s with m_buffer := m_buffer, status := .receiving }
  | .done m_buffer size _ =>
    let s := { s with m_buffer := m_buffer }
    match decodeLoop m_buffer.bytes size with
    | none => s.throw .indexOutOfRange
    | some res =>
      (s.note ("\nGet : " ++ requestPath ++ " " ++ toString res.length ++ " bytes")).close 200 res

/-- `/sethazard`. -/
def State.postHazard (s : State) (points : Option (Option Points)) : State :=
  match points with
  | none => s.throw .json
  | some points =>
    match setHazard points with
    | .error e => s.throw e
    | .ok command => (s.write command).close 200 resOK

/-- `/switch`; a type that is neither of the two is answered without a body. -/
def State.postSwitch (s : State) (command : Option (Option CommandBody)) : State :=
  match command with
  | none => s.throw .json
  | some command =>
    match switchRequest (command.bind CommandBody.type) with
    | some c => (s.write c).close 200 resOK
    | none => s.close 200 []

/-- One iteration of the loop. -/
def serve (site : Site) (s : State) (r : Request) : State :=
  if s.status ≠ .running then s
  else
    match r.requestPath with
    | none => s.close 404 []
    | some path =>
      if path ∈ site.m_contents then (s.note ("\nGet : " ++ path)).close 200 (site.file path)
      else if path = "/camera.jpg" then s.camera path r.reads
      else if r.httpMethod = "POST" ∧ path = "/sethazard" then
        s.postHazard (site.deserializePoints r.body)
      else if r.httpMethod = "POST" ∧ path = "/switch" then
        s.postSwitch (site.deserializeCommand r.body)
      else s.close 404 []

/-- Between `s` and `t` a request got its response, and the next one is accepted. -/
def Answered (s t : State) : Prop :=
  t.status = .running ∧ t.responses.length = s.responses.length + 1

/-- The path is not that of a file. -/
def Reaches (site : Site) (r : Request) (path : String) : Prop :=
  r.requestPath = some path ∧ path ∉ site.m_contents

/-- A picture is asked for and sent, four points are set, and commands can be
read. -/
structure Harmless (site : Site) (r : Request) : Prop where
  camera : Reaches site r "/camera.jpg" →
    10 ≤ (r.reads.headD []).length ∧
      ∃ k ≤ r.reads.length, (r.reads.take k).flatten.length ≤ bufferSize ∧
        endWord <:+ (r.reads.take k).flatten
  sethazard : Reaches site r "/sethazard" → r.httpMethod = "POST" →
    ∃ qs : List Point, 4 ≤ qs.length ∧
      site.deserializePoints r.body = some (some ⟨some (qs.map some)⟩)
  switch : Reaches site r "/switch" → r.httpMethod = "POST" →
    site.deserializeCommand r.body ≠ none

/-! ## One request -/

theorem answered_close (s : State) (hs : s.status = .running) (statusCode : Nat)
    (body : List UInt8) : Answered s (s.close statusCode body) :=
  ⟨hs, by simp [State.close]⟩

theorem not_answered_throw (s t : State) (e : Exn) : ¬ Answered s (t.throw e) := fun h => nomatch h.1

theorem camera_answered_iff (s : State) (hs : s.status = .running) (path : String)
    (reads : List (List UInt8)) :
    Answered s (s.camera path reads) ↔
      10 ≤ (reads.headD []).length ∧
        ∃ k ≤ reads.length, (reads.take k).flatten.length ≤ bufferSize ∧
          endWord <:+ (reads.take k).flatten := by
  rw [← receiveLoop_done_iff s.m_buffer reads]
  unfold State.camera
  simp only [State.write]
  cases hr : receiveLoop s.m_buffer 0 reads with
  | threw b e => exact iff_of_false (not_answered_throw _ _ _) (by rintro ⟨_, _, _, h⟩; cases h)
  | waiting b size => exact iff_of_false (fun h => nomatch h.1) (by rintro ⟨_, _, _, h⟩; cases h)
  | done b size rest =>
    obtain ⟨read, -, -, hholds, hsize, -⟩ := receiveLoop_done s.m_buffer.holds_nil reads hr
    have hle : size ≤ b.bytes.length := by
      rw [hsize, b.length_bytes]
      exact hholds.length_le
    simp only [decodeLoop_eq b.bytes size hle]
    exact iff_of_true ⟨hs, by simp [State.close, State.note]⟩ ⟨b, size, rest, rfl⟩

theorem postHazard_answered_iff (s : State) (hs : s.status = .running)
    (points : Option (Option Points)) :
    Answered s (s.postHazard points) ↔
      ∃ qs : List Point, 4 ≤ qs.length ∧ points = some (some ⟨some (qs.map some)⟩) := by
  cases points with
  | none => exact iff_of_false (not_answered_throw _ _ _) (by rintro ⟨_, _, h⟩; cases h)
  | some points =>
    simp only [Option.some.injEq, ← setHazard_ok_iff, State.postHazard]
    cases setHazard points with
    | error e => exact iff_of_false (not_answered_throw _ _ _) (by rintro ⟨_, h⟩; cases h)
    | ok c => exact iff_of_true (answered_close (s.write c) hs 200 resOK) ⟨c, rfl⟩

theorem postSwitch_answered_iff (s : State) (hs : s.status = .running)
    (command : Option (Option CommandBody)) :
    Answered s (s.postSwitch command) ↔ command ≠ none := by
  cases command with
  | none => exact iff_of_false (not_answered_throw _ _ _) (not_not.mpr rfl)
  | some command =>
    refine iff_of_true ?_ (Option.some_ne_none command)
    simp only [State.postSwitch]
    cases switchRequest (command.bind CommandBody.type) with
    | none => exact answered_close s hs 200 []
    | some c => exact answered_close (s.write c) hs 200 resOK

theorem Reaches.eq {site : Site} {r : Request} {p q : String} (hp : Reaches site r p)
    (hq : Reaches site r q) : p = q := Option.some.inj (hp.1.symm.trans hq.1)

theorem harmless_of_not_reaches {site : Site} {r : Request} (hc : ¬ Reaches site r "/camera.jpg")
    (hh : ¬ (Reaches site r "/sethazard" ∧ r.httpMethod = "POST"))
    (hs : ¬ (Reaches site r "/switch" ∧ r.httpMethod = "POST")) : Harmless site r :=
  ⟨fun h => absurd h hc, fun h hm => absurd ⟨h, hm⟩ hh, fun h hm => absurd ⟨h, hm⟩ hs⟩

section Harmless

variable {site : Site} {r : Request}

theorem harmless_camera_iff (hr : Reaches site r "/camera.jpg") :
    Harmless site r ↔ 10 ≤ (r.reads.headD []).length ∧
      ∃ k ≤ r.reads.length, (r.reads.take k).flatten.length ≤ bufferSize ∧
        endWord <:+ (r.reads.take k).flatten := by
  refine ⟨fun h => h.camera hr, fun h => ⟨fun _ => h, fun hq => ?_, fun hq => ?_⟩⟩
  · exact absurd (hr.eq hq) (by decide)
  · exact absurd (hr.eq hq) (by decide)

theorem harmless_sethazard_iff (hr : Reaches site r "/sethazard") (hpost : r.httpMethod = "POST") :
    Harmless site r ↔ ∃ qs : List Point, 4 ≤ qs.length ∧
      site.deserializePoints r.body = some (some ⟨some (qs.map some)⟩) := by
  refine ⟨fun h => h.sethazard hr hpost, fun h => ⟨fun hq => ?_, fun _ _ => h, fun hq => ?_⟩⟩
  · exact absurd (hr.eq hq) (by decide)
  · exact absurd (hr.eq hq) (by decide)

theorem harmless_switch_iff (hr : Reaches site r "/switch") (hpost : r.httpMethod = "POST") :
    Harmless site r ↔ site.deserializeCommand r.body ≠ none := by
  refine ⟨fun h => h.switch hr hpost, fun h => ⟨fun hq => ?_, fun hq => ?_, fun _ _ => h⟩⟩
  · exact absurd (hr.eq hq) (by decide)
  · exact absurd (hr.eq hq) (by decide)

end Harmless

/-- Whether a request is answered does not depend on those before it. -/
theorem serve_answered_iff (site : Site) (s : State) (hs : s.status = .running) (r : Request) :
    Answered s (serve site s r) ↔ Harmless site r := by
  rw [serve, if_neg (not_not.mpr hs)]
  cases hpath : r.requestPath with
  | none =>
    have hno : ∀ p, ¬ Reaches site r p := fun p h => nomatch hpath.symm.trans h.1
    exact iff_of_true (answered_close s hs 404 [])
      (harmless_of_not_reaches (hno _) (fun h => hno _ h.1) (fun h => hno _ h.1))
  | some path =>
    have heq : ∀ p, Reaches site r p → path = p := fun p h => Option.some.inj (hpath.symm.trans h.1)
    dsimp only
    split_ifs with hfile hcamera hhazard hswitch
    · have hno : ∀ p, ¬ Reaches site r p := fun p h => h.2 (heq p h ▸ hfile)
      exact iff_of_true (answered_close _ hs 200 _)
        (harmless_of_not_reaches (hno _) (fun h => hno _ h.1) (fun h => hno _ h.1))
    · subst hcamera
      rw [camera_answered_iff s hs, harmless_camera_iff ⟨hpath, hfile⟩]
    · obtain ⟨hpost, rfl⟩ := hhazard
      rw [postHazard_answered_iff s hs, harmless_sethazard_iff ⟨hpath, hfile⟩ hpost]
    · obtain ⟨hpost, rfl⟩ := hswitch
      rw [postSwitch_answered_iff s hs, harmless_switch_iff ⟨hpath, hfile⟩ hpost]
    · exact iff_of_true (answered_close s hs 404 []) (harmless_of_not_reaches
        (fun h => hcamera (heq _ h)) (fun h => hhazard ⟨h.2, heq _ h.1⟩)
        (fun h => hswitch ⟨h.2, heq _ h.1⟩))

/-- Every request is answered and the loop goes on exactly if each of them is
harmless. -/
theorem server_survives_iff (site : Site) (rs : List Request) :
    EveryStep (serve site) (fun s r => Answered s (serve site s r)) .init rs ↔
      ∀ r ∈ rs, Harmless site r := by
  have hrun : ∀ s : State, s.status = .running →
      (EveryStep (serve site) (fun s r => Answered s (serve site s r)) s rs ↔
        ∀ r ∈ rs, Harmless site r) := by
    induction rs with
    | nil => exact fun s _ => iff_of_true trivial (fun r hr => nomatch hr)
    | cons r rs ih =>
      intro s hs
      rw [List.forall_mem_cons, ← serve_answered_iff site s hs r, EveryStep]
      exact and_congr_right fun h => ih _ h.1
  exact hrun .init rfl

/-- A deserializer that knows an object without fields only. -/
def emptySite : Site where
  m_contents := []
  file := fun _ => []
  deserializePoints := fun body => if body = "\x7b\x7d" then some (some ⟨none⟩) else none
  deserializeCommand := fun body => if body = "\x7b\x7d" then some (some ⟨none⟩) else none

/-- A body that is not JSON, and one without points, end the loop before the next
request. -/
theorem bad_hazard_ends_loop :
    let post (body : String) : Request := ⟨some "/sethazard", "POST", body, []⟩
    let get : Request := ⟨some "/index.html", "GET", "", []⟩
    ¬ EveryStep (serve emptySite) (fun s r => Answered s (serve emptySite s r)) .init
        [post "points", get] ∧
      (run (serve emptySite) .init [post "points", get]).status = .threw .json ∧
      (run (serve emptySite) .init [post "points", get]).responses = [] ∧
      (run (serve emptySite) .init [post "\x7b\x7d", get]).status = .threw .nullReference ∧
      (run (serve emptySite) .init [post "\x7b\x7d", get]).responses = [] :=
  ⟨fun h => absurd h.1 (not_answered_throw _ _ _), rfl, rfl, rfl, rfl⟩

end Sprefence.WebServer
