import Sprefence.Lib.Links
import Mathlib.Data.List.Perm.Basic
import Mathlib.Data.List.Range

/-! The frame buffers of the video driver, `video_framebuff.c`. A container is linked into
the list of the empty ones, into the queue of the stream, or into none while a caller
has it; the queue is closed to a ring in the ring mode. Containers are numbered as in the
allocated array. -/

namespace Sprefence.VideoFramebuff

open Links

/-! ## The code -/

/-- `enum v4l2_buf_mode`. -/
inductive Mode
  | ring
  | fifo
  deriving DecidableEq, Repr

/-- `struct v4l2_buffer`, as far as the driver and its callers read it. -/
structure V4l2Buffer where
  userptr : Nat
  length : Nat
  bytesused : Nat
  /-- `V4L2_BUF_FLAG_ERROR`. -/
  error : Bool
  deriving DecidableEq, Repr

/-- What `memset` leaves. -/
def V4l2Buffer.zero : V4l2Buffer := ⟨0, 0, 0, false⟩

/-- `struct video_framebuff_s` with the containers behind it. -/
structure Framebuff where
  mode : Mode
  containerSize : Nat
  /-- `vbuf_alloced` is not null. -/
  vbufAlloced : Bool
  vbufEmpty : Option Nat
  vbufTop : Option Nat
  vbufTail : Option Nat
  vbufCurr : Option Nat
  vbufNext : Option Nat
  next : Nat → Option Nat
  buf : Nat → V4l2Buffer

inductive Errno
  | einval
  | enomem
  | eperm
  | ebusy
  | enodev
  deriving DecidableEq, Repr

/-- `V4L2_REQBUFS_COUNT_MAX`. -/
def reqbufsCountMax : Nat := 256

namespace Framebuff

/-- The container behind a pointer; there is none behind the null pointer and behind a
pointer into freed memory. -/
def deref (f : Framebuff) (p : Option Nat) : Option Nat := p.filter (· < f.containerSize)

/-- `p->next`. -/
def getNext (f : Framebuff) (p : Option Nat) : Option (Option Nat) := (f.deref p).map f.next

/-- `p->next = v`. -/
def setNext (f : Framebuff) (p v : Option Nat) : Option Framebuff :=
  (f.deref p).map fun c => { f with next := Function.update f.next c v }

/-- `memset` of the whole structure, then `video_framebuff_init`. -/
def init : Framebuff where
  mode := .ring
  containerSize := 0
  vbufAlloced := false
  vbufEmpty := none
  vbufTop := none
  vbufTail := none
  vbufCurr := none
  vbufNext := none
  next := fun _ => none
  buf := fun _ => .zero

/-- `cleanup_container` with `init_buf_chain`. -/
def cleanupContainer (f : Framebuff) : Framebuff :=
  if f.vbufAlloced then
    { f with
      buf := fun _ => .zero
      vbufEmpty := some 0
      vbufNext := none
      vbufCurr := none
      vbufTop := none
      vbufTail := none
      next := fun i => if i + 1 < f.containerSize then some (i + 1) else none }
  else f

/-- `malloc` tells whether the containers could be allocated. -/
def reallocContainer (f : Framebuff) (sz : Nat) (malloc : Bool) : Framebuff × Except Errno Unit :=
  if sz > reqbufsCountMax then (f, .error .einval)
  else if f.vbufAlloced = false ∨ f.containerSize ≠ sz then
    let f := if f.containerSize ≠ sz then { f with vbufAlloced := false, containerSize := 0 } else f
    if sz > 0 then
      if malloc then
        ({ f with vbufAlloced := true, containerSize := sz }.cleanupContainer, .ok ())
      else (f, .error .enomem)
    else ({ f with containerSize := sz }.cleanupContainer, .ok ())
  else (f.cleanupContainer, .ok ())

def getContainer (f : Framebuff) : Option (Framebuff × Option Nat) :=
  match f.vbufEmpty with
  | none => some (f, none)
  | some ret => do
    let next ← f.getNext (some ret)
    let f ← { f with vbufEmpty := next }.setNext (some ret) none
    some (f, some ret)

def freeContainer (f : Framebuff) (cnt : Nat) : Option Framebuff := do
  let f ← f.setNext (some cnt) f.vbufEmpty
  some { f with vbufEmpty := some cnt }

def queueContainer (f : Framebuff) (tgt : Nat) : Option Framebuff := do
  let f ←
    if f.vbufTop.isSome then do
      let f ← f.setNext f.vbufTail (some tgt)
      let f := { f with vbufTail := some tgt }
      some (if f.vbufNext.isNone then { f with vbufNext := some tgt } else f)
    else some { f with vbufTop := some tgt, vbufTail := some tgt, vbufNext := some tgt }
  if f.mode = .ring then f.setNext f.vbufTail f.vbufTop
  else f.setNext f.vbufTail none

/-- The container that is taken out is `vbuf_top`. -/
def dequeueVbufUnsafe (f : Framebuff) : Option (Framebuff × Option Nat) := do
  let ret := f.vbufTop
  if f.vbufTop = f.vbufTail then
    some ({ f with vbufTop := none, vbufTail := none, vbufNext := none }, ret)
  else
    let f ← if f.mode = .ring then do f.setNext f.vbufTail (← f.getNext f.vbufTop) else some f
    let next ← f.getNext f.vbufTop
    some ({ f with vbufTop := next }, ret)

def dqValidContainer (f : Framebuff) : Option (Framebuff × Option Nat) :=
  if f.vbufTop ≠ none ∧ f.vbufTop ≠ f.vbufNext then f.dequeueVbufUnsafe else some (f, none)

def popCurrContainer (f : Framebuff) : Option (Framebuff × Option Nat) :=
  if f.vbufTop ≠ none then f.dequeueVbufUnsafe else some (f, none)

def getVacantContainer (f : Framebuff) : Framebuff × Option Nat :=
  ({ f with vbufCurr := f.vbufNext }, f.vbufNext)

def captureDone (f : Framebuff) : Option Framebuff := do
  let f := { f with vbufCurr := none }
  if f.vbufNext.isSome then
    let next ← f.getNext f.vbufNext
    let f := { f with vbufNext := next }
    if f.vbufNext = f.vbufTop then
      let top ← f.getNext f.vbufTop
      let f := { f with vbufTop := top }
      let tail ← f.getNext f.vbufTail
      some { f with vbufTail := tail }
    else some f
  else some f

def changeMode (f : Framebuff) (mode : Mode) : Option Framebuff := do
  if f.mode ≠ mode then
    let f ←
      if f.vbufTail.isSome then do
        let f ← f.setNext f.vbufTail (if mode = .ring then f.vbufTop else none)
        some { f with vbufNext := f.vbufTop }
      else some f
    some { f with mode := mode }
  else some f

end Framebuff

/-! ## What it is for -/

/-- The queue holds the captured frames, the oldest first, and then the buffers that are
still to be filled. A ring that has frames has a buffer to fill as well. -/
structure Queue where
  size : Nat
  mode : Mode
  empty : List Nat
  held : List Nat
  valid : List Nat
  vacant : List Nat
  perm : (empty ++ held ++ valid ++ vacant).Perm (List.range size)
  ring : mode = .ring → vacant = [] → valid = []

namespace Queue

variable (q : Queue)

def queued : List Nat := q.valid ++ q.vacant

/-- All containers are empty. -/
def fresh (mode : Mode) (size : Nat) : Queue where
  size := size
  mode := mode
  empty := List.range size
  held := []
  valid := []
  vacant := []
  perm := by simp
  ring := fun _ _ => rfl

theorem perm_of_count {empty held valid vacant : List Nat}
    (h : ∀ a, (empty ++ held ++ valid ++ vacant).count a =
      (q.empty ++ q.held ++ q.valid ++ q.vacant).count a) :
    (empty ++ held ++ valid ++ vacant).Perm (List.range q.size) :=
  (List.perm_iff_count.mpr h).trans q.perm

/-- An empty container is handed out. -/
def take (c : Nat) (e : List Nat) (h : q.empty = c :: e) : Queue :=
  { q with
    empty := e
    held := c :: q.held
    perm := q.perm_of_count fun a => by
      simp only [h, List.count_append, List.count_cons]
      omega }

/-- A held container becomes empty. -/
def release (c : Nat) (h : c ∈ q.held) : Queue :=
  { q with
    empty := c :: q.empty
    held := q.held.erase c
    perm := q.perm_of_count fun a => by
      have hcount := (List.perm_cons_erase h).count_eq a
      simp only [List.count_append, List.count_cons] at hcount ⊢
      omega }

/-- A held container is to be filled. -/
def enqueue (c : Nat) (h : c ∈ q.held) : Queue :=
  { q with
    held := q.held.erase c
    vacant := q.vacant ++ [c]
    perm := q.perm_of_count fun a => by
      have hcount := (List.perm_cons_erase h).count_eq a
      simp only [List.count_append, List.count_cons, List.count_nil] at hcount ⊢
      omega
    ring := fun _ hnil => absurd hnil (by simp) }

/-- The oldest frame is handed out. -/
def dequeue (v : Nat) (vs : List Nat) (h : q.valid = v :: vs) : Queue :=
  { q with
    held := v :: q.held
    valid := vs
    perm := q.perm_of_count fun a => by
      simp only [h, List.count_append, List.count_cons]
      omega
    ring := fun hring hnil => absurd (q.ring hring hnil) (by simp [h]) }

/-- The only buffer of the queue is handed out. -/
def drain (x : Nat) (hvalid : q.valid = []) (h : q.vacant = [x]) : Queue :=
  { q with
    held := x :: q.held
    vacant := []
    perm := q.perm_of_count fun a => by
      simp only [hvalid, h, List.count_append, List.count_cons, List.count_nil]
      omega
    ring := fun _ _ => hvalid }

/-- Frames and buffers after a capture: in a ring the oldest frame gives up its buffer for
the last free one. -/
def advance (mode : Mode) (valid : List Nat) : List Nat → List Nat × List Nat
  | [] => (valid, [])
  | x :: y :: ys => (valid ++ [x], y :: ys)
  | [x] =>
    match mode, valid with
    | .fifo, valid => (valid ++ [x], [])
    | .ring, [] => ([], [x])
    | .ring, t :: rest => (rest ++ [x], [t])

theorem count_advance (mode : Mode) (valid vacant : List Nat) (a : Nat) :
    (advance mode valid vacant).1.count a + (advance mode valid vacant).2.count a =
      valid.count a + vacant.count a := by
  match mode, valid, vacant with
  | _, _, [] => rfl
  | _, _, x :: y :: ys =>
    simp only [advance, List.count_append, List.count_cons, List.count_nil]
    omega
  | .fifo, _, [x] => simp [advance]
  | .ring, [], [x] => simp [advance]
  | .ring, t :: rest, [x] =>
    simp only [advance, List.count_append, List.count_cons, List.count_nil]
    omega

theorem advance_ring (valid vacant : List Nat) (h : vacant = [] → valid = []) :
    (advance .ring valid vacant).2 = [] → (advance .ring valid vacant).1 = [] := by
  match valid, vacant with
  | _, [] => exact h
  | _, _ :: _ :: _ => exact fun hnil => absurd hnil (by simp [advance])
  | [], [_] => exact fun _ => rfl
  | _ :: _, [_] => exact fun hnil => absurd hnil (by simp [advance])

def captureDone : Queue :=
  { q with
    valid := (advance q.mode q.valid q.vacant).1
    vacant := (advance q.mode q.valid q.vacant).2
    perm := q.perm_of_count fun a => by
      have hcount := count_advance q.mode q.valid q.vacant a
      simp only [List.count_append]
      omega
    ring := fun hring => by
      rw [hring]
      exact advance_ring _ _ (q.ring hring) }

/-- The frames are given up when the mode changes. -/
def changeMode (mode : Mode) : Queue :=
  if q.mode = mode then q
  else
    { q with
      mode := mode
      valid := []
      vacant := q.valid ++ q.vacant
      perm := by simpa using q.perm
      ring := fun _ _ => rfl }

theorem nodup : (q.empty ++ q.held ++ q.valid ++ q.vacant).Nodup :=
  q.perm.nodup_iff.mpr List.nodup_range

theorem nodup_queued : q.queued.Nodup := by
  have h := q.nodup
  rw [List.append_assoc] at h
  exact (List.nodup_append.mp h).2.1

theorem lt_size {a : Nat} (h : a ∈ q.empty ++ q.held ++ q.valid ++ q.vacant) : a < q.size :=
  List.mem_range.mp (q.perm.mem_iff.mp h)

theorem lt_size_of_queued {a : Nat} (h : a ∈ q.queued) : a < q.size := by
  refine q.lt_size ?_
  rw [List.append_assoc]
  exact List.mem_append_right _ h

theorem lt_size_of_held {a : Nat} (h : a ∈ q.held) : a < q.size :=
  q.lt_size (by simp [h])

theorem lt_size_of_empty {a : Nat} (h : a ∈ q.empty) : a < q.size :=
  q.lt_size (by simp [h])

theorem not_empty_of_held {a : Nat} (h : a ∈ q.held) : a ∉ q.empty := by
  have hnodup := q.nodup
  simp only [List.append_assoc, List.nodup_append, List.mem_append] at hnodup
  exact fun he => hnodup.2.2 a he a (.inl h) rfl

theorem not_queued_of_held {a : Nat} (h : a ∈ q.held) : a ∉ q.queued := by
  have hnodup := q.nodup
  simp only [List.append_assoc, List.nodup_append, List.mem_append] at hnodup
  intro hq
  exact hnodup.2.1.2.2 a h a (List.mem_append.mp hq) rfl

theorem not_queued_of_empty {a : Nat} (h : a ∈ q.empty) : a ∉ q.queued := by
  have hnodup := q.nodup
  simp only [List.append_assoc, List.nodup_append, List.mem_append] at hnodup
  intro hq
  exact hnodup.2.2 a h a (.inr (List.mem_append.mp hq)) rfl

end Queue

end Sprefence.VideoFramebuff
