import Sprefence.Lib.Runs
import Sprefence.WebSource.Encoder
import Sprefence.WebSource.Video

/-! The command loop of `web_source`. One iteration is one `read` of the
serial line: the bytes land at the start of a zeroed buffer and only their
prefix decides what happens. The state keeps, besides the program's variables
and the files on the SD card, a log of what the outside sees, each entry with
the number of serial bytes read before it. -/

namespace Sprefence.WebSource

open CBytes

/-- The files on the card; `none` is an absent file. -/
structure SdCard where
  hazardIni : Option (List UInt8)
  switchIni : Option (List UInt8)
  uyvyYuv : Option (List UInt8)
  deriving DecidableEq, Repr

inductive Status
  | running
  | returned (ret : Int)
  /-- The null pointer of a failed `get_camimage` is dereferenced. -/
  | crashed
  deriving DecidableEq, Repr

inductive Effect
  /-- A picture was written to the serial line. -/
  | picture (stream : List UInt8)
  | hazardIni (file : List UInt8)
  | switchIni (file : List UInt8)
  /-- The program ended. -/
  | ended
  deriving DecidableEq, Repr

/-- The surroundings of one iteration. -/
structure Env where
  driver : Driver
  memalign : Bool
  /-- The file that the command writes can be opened. -/
  fopen : Bool

/-- Files can be written, and there is no camera. -/
def Env.noCamera : Env := ⟨⟨false, -1, false, false, false, false, false, none⟩, false, true⟩

/-- `ret` holds what `boardctl` returned, `OK` or `ERROR`, until the camera
functions set it to 0. -/
structure State where
  status : Status
  ret : Int
  ret_ok : ret = 0 ∨ ret = -1
  video : Video
  /-- The length of the last frame, also for a `get_camimage` that fails. -/
  usedLen : Nat
  sd : SdCard
  consumed : Nat
  log : List (Nat × Effect)
  deriving DecidableEq

/-- The loop is entered for the first time. -/
def State.init (ret : Int) (ret_ok : ret = 0 ∨ ret = -1) (sd : SdCard) : State :=
  ⟨.running, ret, ret_ok, Video.init, 0, sd, 0, []⟩

/-- The first state on a card without the three files. -/
def State.fresh : State := .init 0 (.inl rfl) ⟨none, none, none⟩

inductive Read
  /-- `read` returned a negative value. -/
  | error
  | data (bytes : List UInt8)

/-- The buffer after a `read`; it is all zero at the head of the loop. -/
def readBuff (bytes : List UInt8) : List UInt8 := store (List.replicate 256 0) bytes

def State.emit (s : State) (e : Effect) : State :=
  { s with log := s.log ++ [(s.consumed, e)] }

/-- `return ret` inside the loop. -/
def State.finish (s : State) (ret : Int) : State :=
  { s.emit .ended with status := .returned ret }

def State.crash (s : State) : State := { s.emit .ended with status := .crashed }

def cameraCommand (env : Env) (s : State) : State :=
  let (v, ret) := cameraPrepare env.driver s.video
  if ret < 0 then { s with video := v }.finish ret
  else
    let (v, ret) := setCamimage env.memalign env.driver v
    if ret < 0 then { s with video := v }.finish ret
    else
      let (v, mem) := getCamimage env.driver v
      let s := { s with video := v, ret := 0, ret_ok := .inl rfl }
      match mem with
      | none =>
        -- without a group the null pointer is not read before `fwrite`
        if yuvSize < s.usedLen then s.crash
        else
          let s := s.emit (.picture (sendPicture [] s.usedLen))
          if env.fopen then { s with sd := { s.sd with uyvyYuv := some [] } }.crash
          else s.finish (-1)
      | some f =>
        let s := { s with usedLen := f.bytesused }.emit (.picture (sendPicture f.mem f.bytesused))
        if env.fopen then
          { s with
            sd := { s.sd with uyvyYuv := some (f.mem.take yuvSize) }
            video := s.video.close.uninit }
        else s.finish (-1)

/-- `fwrite(buff + 4, 1, 16, fp)` into `hazard.ini`. -/
def setCommand (env : Env) (buff : List UInt8) (s : State) : State :=
  if env.fopen then
    let file := (buff.drop 4).take 16
    { s with sd := { s.sd with hazardIni := some file } }.emit (.hazardIni file)
  else s.finish (-1)

/-- `fwrite(buff, 1, 3, fp)` into `switch.ini`. -/
def onCommand (env : Env) (buff : List UInt8) (s : State) : State :=
  if env.fopen then
    let file := buff.take 3
    { s with sd := { s.sd with switchIni := some file } }.emit (.switchIni file)
  else s.finish (-1)

/-- The body of the loop after a successful `read`. -/
def receive (env : Env) (s : State) (bytes : List UInt8) : State :=
  let buff := readBuff bytes
  if strncmp buff (ascii "camera") 6 = 0 then cameraCommand env s
  else if strncmp buff (ascii "set") 3 = 0 then setCommand env buff s
  else if strncmp buff (ascii "on") 2 = 0 then onCommand env buff s
  else s

/-- The test `while (ret != -ESHUTDOWN)`, with `ESHUTDOWN` as 110. -/
def State.loopTest (s : State) : State :=
  if s.ret ≠ -110 then s else s.finish 0

/-- One iteration; a program that has ended reads nothing more. -/
def step (s : State) (i : Env × Read) : State :=
  match s.status, i.2 with
  | .running, .data bytes =>
    let s := receive i.1 s bytes
    if s.status = .running then { s with consumed := s.consumed + bytes.length }.loopTest else s
  | .running, .error => s.loopTest
  | _, _ => s

/-! ## What one iteration does -/

theorem readBuff_slice (bytes : List UInt8) (a b : Nat) (h : a + b ≤ bytes.length) :
    ((readBuff bytes).drop a).take b = (bytes.drop a).take b := by
  unfold readBuff store
  rw [List.drop_append_of_le_length (by omega), List.take_append_of_le_length (by simp; omega)]

/-- The commands the loop tells apart. -/
inductive Recognised
  | camera
  | set
  | on
  | nothing
  deriving DecidableEq, Repr

/-- The first literal of the loop that is a prefix of the received bytes. -/
def recognise (bytes : List UInt8) : Recognised :=
  if ascii "camera" <+: bytes then .camera
  else if ascii "set" <+: bytes then .set
  else if ascii "on" <+: bytes then .on
  else .nothing

private theorem strncmp_readBuff (w bytes : List UInt8) (hw : ∀ c ∈ w, c ≠ 0) :
    strncmp (readBuff bytes) w w.length = 0 ↔ w <+: bytes := by
  rw [strncmp_literal_iff w hw, readBuff, store, literal_prefix_append_zeros w hw]
  intro c hc
  exact List.eq_of_mem_replicate (List.mem_of_mem_drop hc)

theorem receive_eq (env : Env) (s : State) (bytes : List UInt8) :
    receive env s bytes =
      match recognise bytes with
      | .camera => cameraCommand env s
      | .set => setCommand env (readBuff bytes) s
      | .on => onCommand env (readBuff bytes) s
      | .nothing => s := by
  have hc := strncmp_readBuff (ascii "camera") bytes (by simp [ascii])
  have hs := strncmp_readBuff (ascii "set") bytes (by simp [ascii])
  have ho := strncmp_readBuff (ascii "on") bytes (by simp [ascii])
  rw [show (ascii "camera").length = 6 from rfl] at hc
  rw [show (ascii "set").length = 3 from rfl] at hs
  rw [show (ascii "on").length = 2 from rfl] at ho
  simp only [receive, recognise, hc, hs, ho]
  split_ifs <;> rfl

/-- The loop's own test never ends it. -/
@[simp] theorem State.loopTest_eq (s : State) : s.loopTest = s := by
  have h := s.ret_ok
  unfold loopTest
  rw [if_pos (by omega)]

theorem step_data (s : State) (hs : s.status = .running) (env : Env) (bytes : List UInt8) :
    step s (env, .data bytes) =
      let s := receive env s bytes
      if s.status = .running then { s with consumed := s.consumed + bytes.length } else s := by
  simp [step, hs]

/-! ### The log -/

theorem step_ended (s : State) (hs : s.status ≠ .running) (i : Env × Read) : step s i = s := by
  unfold step
  split <;> simp_all

end Sprefence.WebSource
