import Sprefence.Lib.PartialRuns
import Sprefence.Video.Framebuff

/-! The pointers of `video_framebuff.c` against the queue that they are for. Each function
is given by what it does to the queue; none of them follows a null pointer or one into
freed memory. -/

namespace Sprefence.VideoFramebuff

open Links

/-- The pointers tell the queue. -/
structure Rep (f : Framebuff) (q : Queue) : Prop where
  mode : f.mode = q.mode
  size : f.containerSize = q.size
  empty : Path f.next f.vbufEmpty q.empty none
  top : f.vbufTop = q.queued.head?
  tail : f.vbufTail = q.queued.getLast?
  next : f.vbufNext = q.vacant.head?
  links : Path f.next f.vbufTop q.queued (if q.mode = .ring then f.vbufTop else none)

/-- The containers' contents and the one that is being filled are left alone. -/
structure Framebuff.Keeps (f f' : Framebuff) : Prop where
  curr : f'.vbufCurr = f.vbufCurr
  buf : f'.buf = f.buf

namespace Framebuff

theorem deref_some {f : Framebuff} {c : Nat} (h : c < f.containerSize) :
    f.deref (some c) = some c := by
  simp [deref, h]

theorem getNext_some {f : Framebuff} {c : Nat} (h : c < f.containerSize) :
    f.getNext (some c) = some (f.next c) := by
  rw [getNext, deref_some h, Option.map_some]

theorem setNext_some {f : Framebuff} {c : Nat} (h : c < f.containerSize) (v : Option Nat) :
    f.setNext (some c) v = some { f with next := Function.update f.next c v } := by
  rw [setNext, deref_some h, Option.map_some]

end Framebuff

variable {f : Framebuff} {q : Queue}

theorem Rep.lt_of_queued (h : Rep f q) {a : Nat} (ha : a ∈ q.queued) : a < f.containerSize :=
  h.size ▸ q.lt_size_of_queued ha

theorem Rep.lt_of_held (h : Rep f q) {a : Nat} (ha : a ∈ q.held) : a < f.containerSize :=
  h.size ▸ q.lt_size_of_held ha

theorem Queue.last_notMem {l : List Nat} {a : Nat} (hqueued : q.queued = l ++ [a]) : a ∉ l := by
  have hnodup := q.nodup_queued
  rw [hqueued, List.nodup_append] at hnodup
  exact fun ha => hnodup.2.2 a ha a List.mem_cons_self rfl

/-! ## The empty containers -/

theorem getContainer_none (h : Rep f q) (he : q.empty = []) : f.getContainer = some (f, none) := by
  have hempty := h.empty
  rw [he, path_nil] at hempty
  simp only [Framebuff.getContainer, hempty]

theorem getContainer_some (h : Rep f q) {c : Nat} {e : List Nat} (he : q.empty = c :: e) :
    ∃ f', f.getContainer = some (f', some c) ∧ Rep f' (q.take c e he) ∧ f.Keeps f' := by
  have hempty := h.empty
  rw [he, path_cons] at hempty
  have hmem : c ∈ q.empty := he ▸ List.mem_cons_self
  have hlt : c < f.containerSize := h.size ▸ q.lt_size_of_empty hmem
  have hce : c ∉ e := by
    have hnodup := q.nodup
    simp only [he, List.cons_append, List.nodup_cons, List.mem_append, not_or] at hnodup
    exact hnodup.1.1.1.1
  have hlt' : c < { f with vbufEmpty := f.next c }.containerSize := hlt
  refine ⟨{ f with vbufEmpty := f.next c, next := Function.update f.next c none }, ?_, ?_, rfl, rfl⟩
  · simp only [Framebuff.getContainer, hempty.1, Framebuff.getNext_some hlt, Option.bind_eq_bind,
      Option.bind_some, Framebuff.setNext_some hlt']
  · exact ⟨h.mode, h.size, (path_update none hce).mpr hempty.2, h.top, h.tail, h.next,
      (path_update none (q.not_queued_of_empty hmem)).mpr h.links⟩

theorem freeContainer_eq (h : Rep f q) {c : Nat} (hc : c ∈ q.held) :
    ∃ f', f.freeContainer c = some f' ∧ Rep f' (q.release c hc) ∧ f.Keeps f' := by
  refine ⟨{ f with vbufEmpty := some c, next := Function.update f.next c f.vbufEmpty }, ?_, ?_,
    rfl, rfl⟩
  · rw [Framebuff.freeContainer, Framebuff.setNext_some (h.lt_of_held hc)]
    rfl
  · refine ⟨h.mode, h.size, ⟨rfl, ?_⟩, h.top, h.tail, h.next,
      (path_update _ (q.not_queued_of_held hc)).mpr h.links⟩
    dsimp only
    rw [Function.update_self]
    exact (path_update _ (q.not_empty_of_held hc)).mpr h.empty

/-! ## The queue -/

namespace Framebuff

theorem queueContainer_first {c : Nat} (htop : f.vbufTop = none) (hc : c < f.containerSize) :
    f.queueContainer c = some { f with
      vbufTop := some c
      vbufTail := some c
      vbufNext := some c
      next := Function.update f.next c (if f.mode = .ring then some c else none) } := by
  obtain ⟨mode, size, alloced, empty, top, tail, curr, vnext, next, buf⟩ := f
  dsimp only at htop hc
  subst htop
  cases mode <;> simp [queueContainer, setNext_some, hc]

theorem queueContainer_behind {a c : Nat} (htop : f.vbufTop.isSome) (htail : f.vbufTail = some a)
    (ha : a < f.containerSize) (hc : c < f.containerSize) :
    f.queueContainer c = some { f with
      vbufTail := some c
      vbufNext := f.vbufNext.orElse fun _ => some c
      next := Function.update (Function.update f.next a (some c)) c
        (if f.mode = .ring then f.vbufTop else none) } := by
  obtain ⟨mode, size, alloced, empty, top, tail, curr, vnext, next, buf⟩ := f
  dsimp only at htop htail ha hc
  subst htail
  cases mode <;> cases vnext <;> simp [queueContainer, setNext_some, htop, ha, hc]

end Framebuff

theorem queueContainer_eq (h : Rep f q) {c : Nat} (hc : c ∈ q.held) :
    ∃ f', f.queueContainer c = some f' ∧ Rep f' (q.enqueue c hc) ∧ f.Keeps f' := by
  have hlt := h.lt_of_held hc
  have hempty := q.not_empty_of_held hc
  have hcq := q.not_queued_of_held hc
  have hnew : (q.enqueue c hc).queued = q.queued ++ [c] := by
    simp only [Queue.queued, Queue.enqueue, List.append_assoc]
  have hlinks := h.links
  rcases List.eq_nil_or_concat q.queued with hnil | ⟨l, a, hqueued⟩
  · have hvacant : q.vacant = [] := (List.append_eq_nil_iff.mp hnil).2
    have htop : f.vbufTop = none := by rw [h.top, hnil]; rfl
    refine ⟨_, Framebuff.queueContainer_first htop hlt, ?_, rfl, rfl⟩
    refine ⟨h.mode, h.size, (path_update _ hempty).mpr h.empty, ?_, ?_, ?_, ?_⟩
    · rw [hnew, hnil]; rfl
    · rw [hnew, hnil]; rfl
    · simp only [Queue.enqueue, hvacant]; rfl
    · rw [hnew, hnil, h.mode]
      exact ⟨rfl, Function.update_self ..⟩
  · rw [List.concat_eq_append] at hqueued
    have hal : a ∉ l := Queue.last_notMem hqueued
    have htail : f.vbufTail = some a := by rw [h.tail, hqueued, List.getLast?_concat]
    have htop : f.vbufTop.isSome := by
      rw [h.top, hqueued]
      cases l <;> rfl
    have hlta : a < f.containerSize := h.lt_of_queued (by rw [hqueued]; simp)
    have ha := q.not_queued_of_empty (a := a)
    rw [hqueued] at hlinks hcq ha
    refine ⟨_, Framebuff.queueContainer_behind htop htail hlta hlt, ?_, rfl, rfl⟩
    refine ⟨h.mode, h.size, ?_, ?_, ?_, ?_, ?_⟩
    · have hae : a ∉ q.empty := fun he => ha he (by simp)
      exact (path_update _ hempty).mpr ((path_update _ hae).mpr h.empty)
    · rw [hnew, hqueued, h.top, hqueued]
      cases l <;> rfl
    · rw [hnew, List.getLast?_concat]
    · simp only [Queue.enqueue, h.next]
      cases q.vacant <;> rfl
    · rw [hnew, hqueued, h.mode]
      exact hlinks.extend hal hcq _

/-! ## Taking a container out -/

namespace Framebuff

theorem dequeueVbufUnsafe_last {x : Nat} (htop : f.vbufTop = some x) (htail : f.vbufTail = some x) :
    f.dequeueVbufUnsafe =
      some ({ f with vbufTop := none, vbufTail := none, vbufNext := none }, some x) := by
  simp [dequeueVbufUnsafe, htop, htail]

theorem dequeueVbufUnsafe_first {v a w : Nat} (htop : f.vbufTop = some v)
    (htail : f.vbufTail = some a) (hva : v ≠ a) (hv : v < f.containerSize)
    (ha : a < f.containerSize) (hw : f.next v = some w) :
    f.dequeueVbufUnsafe = some ({ f with
      vbufTop := some w
      next := if f.mode = .ring then Function.update f.next a (some w) else f.next }, some v) := by
  obtain ⟨mode, size, alloced, empty, top, tail, curr, vnext, next, buf⟩ := f
  dsimp only at htop htail hv ha hw
  subst htop htail
  cases mode <;> simp [dequeueVbufUnsafe, setNext_some, getNext_some, hva, hv, ha, hw]

end Framebuff

/-- The state behind the last container that is taken out. -/
theorem Rep.of_last (h : Rep f q) {q' : Queue} (hmode : q'.mode = q.mode) (hsize : q'.size = q.size)
    (hempty : q'.empty = q.empty) (hvalid : q'.valid = []) (hvacant : q'.vacant = []) :
    Rep { f with vbufTop := none, vbufTail := none, vbufNext := none } q' := by
  refine ⟨h.mode.trans hmode.symm, h.size.trans hsize.symm, hempty ▸ h.empty, ?_, ?_, ?_, ?_⟩ <;>
    simp [Queue.queued, hvalid, hvacant]

/-- The first of several containers is taken out of the queue. -/
theorem dequeueVbufUnsafe_eq (h : Rep f q) {v : Nat} {vs : List Nat} (hvalid : q.valid = v :: vs) :
    ∃ f', f.dequeueVbufUnsafe = some (f', some v) ∧ Rep f' (q.dequeue v vs hvalid) ∧ f.Keeps f' := by
  have hqueued : q.queued = v :: (vs ++ q.vacant) := by rw [Queue.queued, hvalid, List.cons_append]
  have hnew : (q.dequeue v vs hvalid).queued = vs ++ q.vacant := rfl
  have htop : f.vbufTop = some v := by rw [h.top, hqueued]; rfl
  rcases List.eq_nil_or_concat (vs ++ q.vacant) with hnil | ⟨l, a, hrest⟩
  · have htail : f.vbufTail = some v := by rw [h.tail, hqueued, hnil]; rfl
    have hvacant : q.vacant = [] := (List.append_eq_nil_iff.mp hnil).2
    exact ⟨_, Framebuff.dequeueVbufUnsafe_last htop htail,
      h.of_last rfl rfl rfl (List.append_eq_nil_iff.mp hnil).1 hvacant, rfl, rfl⟩
  · rw [List.concat_eq_append] at hrest
    have hnodup := q.nodup_queued
    rw [hqueued, hrest, List.nodup_cons] at hnodup
    have hva : v ≠ a := fun hva => hnodup.1 (by simp [hva])
    have hal : a ∉ l := fun ha => (List.nodup_append.mp hnodup.2).2.2 a ha a (by simp) rfl
    have hlinks := h.links
    rw [hqueued, path_cons, hrest] at hlinks
    obtain ⟨w, hw⟩ : ∃ w, (l ++ [a]).head? = some w := by
      cases l with
      | nil => exact ⟨a, rfl⟩
      | cons b l => exact ⟨b, rfl⟩
    have hnext : f.next v = some w := hw ▸ hlinks.2.eq_head (by simp)
    have htail : f.vbufTail = some a := by
      rw [h.tail, hqueued, hrest, ← List.cons_append, List.getLast?_concat]
    have hmem : ∀ {b}, b ∈ v :: (l ++ [a]) → b ∈ q.queued := by
      intro b hb
      rwa [hqueued, hrest]
    refine ⟨_, Framebuff.dequeueVbufUnsafe_first htop htail hva (h.lt_of_queued (hmem (by simp)))
      (h.lt_of_queued (hmem (by simp))) hnext, ?_, rfl, rfl⟩
    have hae : a ∉ q.empty := fun he => q.not_queued_of_empty he (hmem (by simp))
    refine ⟨h.mode, h.size, ?_, ?_, ?_, h.next, ?_⟩
    · change Path _ f.vbufEmpty q.empty none
      cases hmode : f.mode with
      | ring => simpa only [hmode, if_true] using (path_update _ hae).mpr h.empty
      | fifo => simpa [hmode] using h.empty
    · rw [hnew, hrest, hw]
    · rw [hnew, hrest, List.getLast?_concat]
      exact htail
    · rw [hnew, hrest]
      cases hmode : q.mode with
      | ring =>
        have hfmode := h.mode.trans hmode
        rw [hnext] at hlinks
        simpa [hfmode, Queue.dequeue, hmode] using hlinks.2.relink hal (some w)
      | fifo =>
        have hfmode := h.mode.trans hmode
        rw [hnext] at hlinks
        simpa [hfmode, Queue.dequeue, hmode] using hlinks.2

theorem dqValidContainer_none (h : Rep f q) (hvalid : q.valid = []) :
    f.dqValidContainer = some (f, none) := by
  have htop : f.vbufTop = f.vbufNext := by rw [h.top, h.next, Queue.queued, hvalid, List.nil_append]
  rw [Framebuff.dqValidContainer, if_neg (fun hand => hand.2 htop)]

theorem dqValidContainer_some (h : Rep f q) {v : Nat} {vs : List Nat} (hvalid : q.valid = v :: vs) :
    ∃ f', f.dqValidContainer = some (f', some v) ∧ Rep f' (q.dequeue v vs hvalid) ∧ f.Keeps f' := by
  have hqueued : q.queued = v :: (vs ++ q.vacant) := by rw [Queue.queued, hvalid, List.cons_append]
  have htop : f.vbufTop = some v := by rw [h.top, hqueued]; rfl
  have hnext : f.vbufNext ≠ some v := by
    rw [h.next]
    intro hv
    have hmem := List.mem_of_head? hv
    have hnodup := q.nodup_queued
    rw [hqueued, List.nodup_cons] at hnodup
    exact hnodup.1 (List.mem_append_right _ hmem)
  rw [Framebuff.dqValidContainer, if_pos ⟨by simp [htop], by rw [htop]; exact hnext.symm⟩]
  exact dequeueVbufUnsafe_eq h hvalid

theorem popCurrContainer_some (h : Rep f q) {v : Nat} {vs : List Nat} (hvalid : q.valid = v :: vs) :
    ∃ f', f.popCurrContainer = some (f', some v) ∧ Rep f' (q.dequeue v vs hvalid) ∧ f.Keeps f' := by
  have htop : f.vbufTop = some v := by rw [h.top, Queue.queued, hvalid]; rfl
  rw [Framebuff.popCurrContainer, if_pos (by simp [htop])]
  exact dequeueVbufUnsafe_eq h hvalid

/-- The only buffer of a ring never counts as a frame, but is popped as one. -/
theorem popCurrContainer_single (h : Rep f q) {x : Nat} (hvalid : q.valid = [])
    (hvacant : q.vacant = [x]) :
    ∃ f', f.popCurrContainer = some (f', some x) ∧ Rep f' (q.drain x hvalid hvacant) ∧
      f.Keeps f' := by
  have hqueued : q.queued = [x] := by rw [Queue.queued, hvalid, hvacant]; rfl
  have htop : f.vbufTop = some x := by rw [h.top, hqueued]; rfl
  have htail : f.vbufTail = some x := by rw [h.tail, hqueued]; rfl
  refine ⟨{ f with vbufTop := none, vbufTail := none, vbufNext := none }, ?_,
    h.of_last rfl rfl rfl hvalid rfl, rfl, rfl⟩
  rw [Framebuff.popCurrContainer, if_pos (by simp [htop]),
    Framebuff.dequeueVbufUnsafe_last htop htail]

/-! ## Captures -/

namespace Framebuff

theorem captureDone_idle (hnext : f.vbufNext = none) :
    f.captureDone = some { f with vbufCurr := none } := by
  simp [captureDone, hnext]

theorem captureDone_step {x : Nat} (hnext : f.vbufNext = some x) (hx : x < f.containerSize)
    (htop : f.next x ≠ f.vbufTop) :
    f.captureDone = some { f with vbufCurr := none, vbufNext := f.next x } := by
  simp [captureDone, hnext, getNext_some, hx, htop]

theorem captureDone_turn {x t a : Nat} (hnext : f.vbufNext = some x) (hx : x < f.containerSize)
    (htop : f.vbufTop = some t) (ht : t < f.containerSize) (hxt : f.next x = some t)
    (htail : f.vbufTail = some a) (ha : a < f.containerSize) :
    f.captureDone = some { f with
      vbufCurr := none
      vbufNext := some t
      vbufTop := f.next t
      vbufTail := f.next a } := by
  simp [captureDone, hnext, getNext_some, hx, htop, ht, hxt, htail, ha]

end Framebuff

/-- What a capture leaves alone. -/
structure Framebuff.Finishes (f f' : Framebuff) : Prop where
  curr : f'.vbufCurr = none
  buf : f'.buf = f.buf

/-- There was nothing to be filled. -/
theorem captureDone_eq_idle (h : Rep f q) (hvacant : q.vacant = []) :
    ∃ f', f.captureDone = some f' ∧ Rep f' q.captureDone ∧ f.Finishes f' := by
  have hnext : f.vbufNext = none := by rw [h.next, hvacant]; rfl
  refine ⟨_, Framebuff.captureDone_idle hnext, ?_, rfl, rfl⟩
  have hsame : q.captureDone.valid = q.valid ∧ q.captureDone.vacant = q.vacant := by
    simp [Queue.captureDone, Queue.advance, hvacant]
  have hqueued : q.captureDone.queued = q.queued := by
    rw [Queue.queued, hsame.1, hsame.2, Queue.queued]
  exact ⟨h.mode, h.size, h.empty, hqueued ▸ h.top, hqueued ▸ h.tail, hsame.2 ▸ h.next,
    hqueued ▸ h.links⟩

/-- The buffer behind the one that was filled is not the first one. -/
theorem captureDone_eq_step (h : Rep f q) {x : Nat} {xs : List Nat} (hvacant : q.vacant = x :: xs)
    (htop : f.next x ≠ f.vbufTop) (hqueued : q.captureDone.queued = q.queued)
    (hx : f.next x = q.captureDone.vacant.head?) :
    ∃ f', f.captureDone = some f' ∧ Rep f' q.captureDone ∧ f.Finishes f' := by
  have hnext : f.vbufNext = some x := by rw [h.next, hvacant]; rfl
  have hmem : x ∈ q.queued := List.mem_append_right _ (hvacant ▸ List.mem_cons_self)
  refine ⟨_, Framebuff.captureDone_step hnext (h.lt_of_queued hmem) htop, ?_, rfl, rfl⟩
  exact ⟨h.mode, h.size, h.empty, hqueued ▸ h.top, hqueued ▸ h.tail, hx, hqueued ▸ h.links⟩

theorem captureDone_eq_more (h : Rep f q) {x y : Nat} {ys : List Nat}
    (hvacant : q.vacant = x :: y :: ys) :
    ∃ f', f.captureDone = some f' ∧ Rep f' q.captureDone ∧ f.Finishes f' := by
  have hqueued : q.queued = (q.valid ++ [x]) ++ y :: ys := by simp [Queue.queued, hvacant]
  have hxy : f.next x = some y := by
    have hlinks := h.links
    rw [hqueued, path_append] at hlinks
    obtain ⟨r, hfront, hy, -⟩ := hlinks
    exact (path_concat.mp hfront).2.trans hy
  have htop : f.next x ≠ f.vbufTop := by
    rw [hxy, h.top, hqueued]
    intro hy
    have hnodup := q.nodup_queued
    rw [hqueued, List.nodup_append] at hnodup
    have hmem : y ∈ q.valid ++ [x] := by
      refine List.mem_of_head? ?_
      rw [hy]
      cases q.valid <;> rfl
    exact hnodup.2.2 y hmem y (by simp) rfl
  refine captureDone_eq_step h hvacant htop ?_ ?_
  · simp [Queue.queued, Queue.captureDone, Queue.advance, hvacant]
  · simp [Queue.captureDone, Queue.advance, hvacant, hxy]

theorem captureDone_eq_fifo (h : Rep f q) {x : Nat} (hvacant : q.vacant = [x])
    (hmode : q.mode = .fifo) :
    ∃ f', f.captureDone = some f' ∧ Rep f' q.captureDone ∧ f.Finishes f' := by
  have hqueued : q.queued = q.valid ++ [x] := by rw [Queue.queued, hvacant]
  have hxnone : f.next x = none := by
    have hlinks := h.links
    rw [hqueued, path_concat] at hlinks
    simpa [hmode] using hlinks.2
  have htop : f.next x ≠ f.vbufTop := by
    rw [hxnone, h.top, hqueued]
    cases q.valid <;> simp
  refine captureDone_eq_step h hvacant htop ?_ ?_
  · simp [Queue.queued, Queue.captureDone, Queue.advance, hvacant, hmode]
  · simp [Queue.captureDone, Queue.advance, hvacant, hmode, hxnone]

/-- The only buffer of a ring is filled again. -/
theorem captureDone_eq_single (h : Rep f q) {x : Nat} (hvacant : q.vacant = [x])
    (hmode : q.mode = .ring) (hvalid : q.valid = []) :
    ∃ f', f.captureDone = some f' ∧ Rep f' q.captureDone ∧ f.Finishes f' := by
  have hqueued : q.queued = [x] := by rw [Queue.queued, hvacant, hvalid]; rfl
  have hnext : f.vbufNext = some x := by rw [h.next, hvacant]; rfl
  have htop : f.vbufTop = some x := by rw [h.top, hqueued]; rfl
  have htail : f.vbufTail = some x := by rw [h.tail, hqueued]; rfl
  have hx : x < f.containerSize := h.lt_of_queued (by rw [hqueued]; simp)
  have hlinks := h.links
  rw [hqueued, if_pos hmode, htop] at hlinks
  have hxx : f.next x = some x := hlinks.2
  refine ⟨_, Framebuff.captureDone_turn hnext hx htop hx hxx htail hx, ?_, rfl, rfl⟩
  have hnew : q.captureDone.queued = [x] ∧ q.captureDone.vacant = [x] := by
    simp [Queue.queued, Queue.captureDone, Queue.advance, hvacant, hmode, hvalid]
  have hring : q.captureDone.mode = .ring := hmode
  refine ⟨h.mode, h.size, h.empty, ?_, ?_, ?_, ?_⟩
  · rw [hnew.1, hxx]; rfl
  · rw [hnew.1, hxx]; rfl
  · rw [hnew.2]; rfl
  · rw [hnew.1, if_pos hring, hxx]
    exact hlinks

/-- The oldest frame of a ring is given up for the next capture. -/
theorem captureDone_eq_turn (h : Rep f q) {x t : Nat} {rest : List Nat} (hvacant : q.vacant = [x])
    (hmode : q.mode = .ring) (hvalid : q.valid = t :: rest) :
    ∃ f', f.captureDone = some f' ∧ Rep f' q.captureDone ∧ f.Finishes f' := by
  have hqueued : q.queued = t :: rest ++ [x] := by rw [Queue.queued, hvacant, hvalid]
  have hnext : f.vbufNext = some x := by rw [h.next, hvacant]; rfl
  have htop : f.vbufTop = some t := by rw [h.top, hqueued]; rfl
  have htail : f.vbufTail = some x := by rw [h.tail, hqueued, List.getLast?_concat]
  have hlt : ∀ a ∈ t :: rest ++ [x], a < f.containerSize := fun a ha =>
    h.lt_of_queued (hqueued ▸ ha)
  have hlinks := h.links
  rw [hqueued, path_concat, if_pos hmode, htop] at hlinks
  obtain ⟨⟨-, hrest⟩, hxt⟩ := hlinks
  refine ⟨_, Framebuff.captureDone_turn hnext (hlt x (by simp)) htop (hlt t (by simp)) hxt htail
    (hlt x (by simp)), ?_, rfl, rfl⟩
  have hpath : Path f.next (f.next t) (rest ++ [x] ++ [t]) (f.next t) :=
    path_concat.mpr ⟨path_concat.mpr ⟨hrest, hxt⟩, rfl⟩
  have hnew : q.captureDone.queued = rest ++ [x] ++ [t] := by
    simp [Queue.queued, Queue.captureDone, Queue.advance, hvacant, hmode, hvalid]
  have hring : q.captureDone.mode = .ring := hmode
  refine ⟨h.mode, h.size, h.empty, ?_, ?_, ?_, ?_⟩
  · rw [hnew]
    exact hpath.eq_head (by simp)
  · rw [hnew, List.getLast?_concat]
    exact hxt
  · simp [Queue.captureDone, Queue.advance, hvacant, hmode, hvalid]
  · rw [hnew, if_pos hring]
    exact hpath

theorem captureDone_eq (h : Rep f q) :
    ∃ f', f.captureDone = some f' ∧ Rep f' q.captureDone ∧ f.Finishes f' := by
  -- `vbuf_next` is the head of the buffers that are still to be filled
  rcases hvacant : q.vacant with _ | ⟨x, _ | ⟨y, ys⟩⟩
  · exact captureDone_eq_idle h hvacant
  · cases hmode : q.mode with
    | fifo => exact captureDone_eq_fifo h hvacant hmode
    | ring =>
      cases hvalid : q.valid with
      | nil => exact captureDone_eq_single h hvacant hmode hvalid
      | cons t rest => exact captureDone_eq_turn h hvacant hmode hvalid
  · exact captureDone_eq_more h hvacant

theorem getVacantContainer_eq (h : Rep f q) :
    f.getVacantContainer = ({ f with vbufCurr := q.vacant.head? }, q.vacant.head?) := by
  rw [Framebuff.getVacantContainer, h.next]

theorem Rep.of_curr (h : Rep f q) (c : Option Nat) : Rep { f with vbufCurr := c } q :=
  ⟨h.mode, h.size, h.empty, h.top, h.tail, h.next, h.links⟩

theorem Rep.of_buf (h : Rep f q) (buf : Nat → V4l2Buffer) : Rep { f with buf := buf } q :=
  ⟨h.mode, h.size, h.empty, h.top, h.tail, h.next, h.links⟩

/-! ## The mode and the allocation -/

theorem changeMode_eq (h : Rep f q) (mode : Mode) :
    ∃ f', f.changeMode mode = some f' ∧ Rep f' (q.changeMode mode) ∧ f.Keeps f' := by
  by_cases hmode : q.mode = mode
  · refine ⟨f, ?_, ?_, rfl, rfl⟩
    · simp [Framebuff.changeMode, h.mode, hmode]
    · rw [Queue.changeMode, if_pos hmode]
      exact h
  · have hfmode : f.mode ≠ mode := h.mode ▸ hmode
    have hnew : (q.changeMode mode).queued = q.queued ∧ (q.changeMode mode).vacant = q.queued ∧
        (q.changeMode mode).mode = mode ∧ (q.changeMode mode).empty = q.empty ∧
        (q.changeMode mode).size = q.size := by
      simp [Queue.queued, Queue.changeMode, hmode]
    obtain ⟨hqueued', hvacant', hmode', hempty', hsize'⟩ := hnew
    rcases List.eq_nil_or_concat q.queued with hnil | ⟨l, a, hqueued⟩
    · have htail : f.vbufTail = none := by rw [h.tail, hnil]; rfl
      have htop : f.vbufTop = none := by rw [h.top, hnil]; rfl
      have hvacant : q.vacant = [] := (List.append_eq_nil_iff.mp hnil).2
      refine ⟨{ f with mode := mode }, ?_, ?_, rfl, rfl⟩
      · simp [Framebuff.changeMode, hfmode, htail]
      · refine ⟨hmode'.symm, hsize' ▸ h.size, hempty' ▸ h.empty, hqueued' ▸ h.top, hqueued' ▸ h.tail,
          ?_, ?_⟩
        · rw [hvacant', hnil, h.next, hvacant]
        · rw [hqueued', hnil]
          simp [htop]
    · rw [List.concat_eq_append] at hqueued
      have htail : f.vbufTail = some a := by rw [h.tail, hqueued, List.getLast?_concat]
      have ha : a ∈ q.queued := by rw [hqueued]; simp
      have hal : a ∉ l := Queue.last_notMem hqueued
      refine ⟨{ f with
        mode := mode
        vbufNext := f.vbufTop
        next := Function.update f.next a (if mode = .ring then f.vbufTop else none) }, ?_, ?_,
        rfl, rfl⟩
      · simp [Framebuff.changeMode, hfmode, htail, Framebuff.setNext_some (h.lt_of_queued ha)]
      · have hae : a ∉ q.empty := fun he => q.not_queued_of_empty he ha
        refine ⟨hmode'.symm, hsize' ▸ h.size, hempty' ▸ (path_update _ hae).mpr h.empty,
          hqueued' ▸ h.top, hqueued' ▸ h.tail, ?_, ?_⟩
        · rw [hvacant']
          exact h.top
        · have hlinks := h.links
          rw [hqueued] at hlinks
          rw [hqueued', hmode', hqueued]
          exact hlinks.relink hal _

/-- The chain of `init_buf_chain`. -/
theorem path_chain (size : Nat) (i : Nat) (hi : i ≤ size) :
    Path (fun i => if i + 1 < size then some (i + 1) else none)
      (if i < size then some i else none) ((List.range size).drop i) none := by
  induction hn : size - i generalizing i with
  | zero =>
    have hsize : i = size := by omega
    rw [hsize, List.drop_eq_nil_of_le (by simp), if_neg (Nat.lt_irrefl _)]
    rfl
  | succ n ih =>
    have hlt : i < size := by omega
    have hdrop : (List.range size).drop i = i :: (List.range size).drop (i + 1) := by
      rw [List.drop_eq_getElem_cons (by simpa using hlt), List.getElem_range]
    rw [hdrop, if_pos hlt]
    exact ⟨rfl, ih (i + 1) hlt (by omega)⟩

/-- A successful `REQBUFS` starts with all containers empty. -/
theorem reallocContainer_ok (f : Framebuff) (sz : Nat) (hsz : 0 < sz) (hmax : sz ≤ reqbufsCountMax) :
    (f.reallocContainer sz true).2 = .ok () ∧
      Rep (f.reallocContainer sz true).1 (.fresh f.mode sz) ∧
      (f.reallocContainer sz true).1.vbufCurr = none := by
  have hchain := path_chain sz 0 (Nat.zero_le sz)
  rw [if_pos hsz, List.drop_zero] at hchain
  have hmax' : ¬ sz > reqbufsCountMax := Nat.not_lt.mpr hmax
  have hrep : ∀ g : Framebuff, g.mode = f.mode → g.containerSize = sz → g.vbufAlloced = true →
      Rep g.cleanupContainer (.fresh f.mode sz) ∧ g.cleanupContainer.vbufCurr = none := by
    intro g hmode hsize halloced
    rw [Framebuff.cleanupContainer, if_pos halloced, hsize]
    refine ⟨⟨hmode, rfl, hchain, rfl, rfl, rfl, ?_⟩, rfl⟩
    exact (ite_self _).symm
  rw [Framebuff.reallocContainer, if_neg hmax']
  by_cases hnew : f.vbufAlloced = false ∨ f.containerSize ≠ sz
  · rw [if_pos hnew]
    simp only [if_pos hsz, if_true]
    refine ⟨trivial, hrep _ ?_ rfl rfl⟩
    split_ifs <;> rfl
  · rw [if_neg hnew]
    rw [not_or, Bool.not_eq_false, not_not] at hnew
    exact ⟨rfl, hrep f rfl hnew.2 hnew.1⟩

/-! ## Calls in any order -/

inductive Call
  /-- `video_framebuff_change_mode` and `video_framebuff_realloc_container`, as `REQBUFS`
  has them. -/
  | reqbufs (mode : Mode) (sz : Nat) (malloc : Bool)
  | getContainer
  | freeContainer (cnt : Nat)
  | queueContainer (tgt : Nat)
  | dqValidContainer
  | popCurrContainer
  | getVacantContainer
  | captureDone

def Framebuff.call (f : Framebuff) : Call → Option (Framebuff × Option Nat)
  | .reqbufs mode sz malloc =>
    (f.changeMode mode).map fun f => ((f.reallocContainer sz malloc).1, none)
  | .getContainer => f.getContainer
  | .freeContainer cnt => (f.freeContainer cnt).map (·, none)
  | .queueContainer tgt => (f.queueContainer tgt).map (·, none)
  | .dqValidContainer => f.dqValidContainer
  | .popCurrContainer => f.popCurrContainer
  | .getVacantContainer => some f.getVacantContainer
  | .captureDone => f.captureDone.map (·, none)

/-- A call, with its result behind those of the earlier ones. -/
def Framebuff.step (s : Framebuff × List (Option Nat)) (c : Call) :
    Option (Framebuff × List (Option Nat)) :=
  (s.1.call c).map fun r => (r.1, s.2 ++ [r.2])

def Queue.call (q : Queue) : Call → Queue × Option Nat
  | .reqbufs mode sz _ =>
    if sz > reqbufsCountMax then (q.changeMode mode, none) else (.fresh mode sz, none)
  | .getContainer =>
    match h : q.empty with
    | [] => (q, none)
    | c :: e => (q.take c e h, some c)
  | .freeContainer cnt => if h : cnt ∈ q.held then (q.release cnt h, none) else (q, none)
  | .queueContainer tgt => if h : tgt ∈ q.held then (q.enqueue tgt h, none) else (q, none)
  | .dqValidContainer =>
    match h : q.valid with
    | [] => (q, none)
    | v :: vs => (q.dequeue v vs h, some v)
  | .popCurrContainer =>
    match h : q.valid, h' : q.vacant with
    | v :: vs, _ => (q.dequeue v vs h, some v)
    | [], [x] => (q.drain x h h', some x)
    | [], _ => (q, none)
  | .getVacantContainer => (q, q.vacant.head?)
  | .captureDone => (q.captureDone, none)

def Queue.step (s : Queue × List (Option Nat)) (c : Call) : Queue × List (Option Nat) :=
  ((s.1.call c).1, s.2 ++ [(s.1.call c).2])

/-- Callers give back and queue what they hold, and pop a frame only if there is one or if
the queue has at most one buffer. `REQBUFS` gets its memory. -/
def Queue.Allowed (s : Queue × List (Option Nat)) : Call → Prop
  | .reqbufs _ sz malloc => 0 < sz ∧ malloc = true
  | .freeContainer cnt => cnt ∈ s.1.held
  | .queueContainer tgt => tgt ∈ s.1.held
  | .popCurrContainer => s.1.valid = [] → s.1.vacant.length ≤ 1
  | _ => True

theorem rep_init : Rep .init (.fresh .ring 0) :=
  ⟨rfl, rfl, rfl, rfl, rfl, rfl, rfl⟩

theorem call_eq (h : Rep f q) (log : List (Option Nat)) (c : Call)
    (hc : Queue.Allowed (q, log) c) :
    ∃ f', f.call c = some (f', (q.call c).2) ∧ Rep f' (q.call c).1 := by
  cases c with
  | reqbufs mode sz malloc =>
    obtain ⟨hsz, rfl⟩ := hc
    obtain ⟨g, hg, hrep, -⟩ := changeMode_eq h mode
    refine ⟨(g.reallocContainer sz true).1, ?_, ?_⟩
    · simp only [Framebuff.call, hg, Option.map_some, Queue.call]
      split_ifs <;> rfl
    · have hgmode : g.mode = mode := by
        rw [hrep.mode, Queue.changeMode]
        split_ifs with hmode
        · exact hmode
        · rfl
      simp only [Queue.call]
      split_ifs with hmax
      · rw [Framebuff.reallocContainer, if_pos hmax]
        exact hrep
      · rw [← hgmode]
        exact (reallocContainer_ok g sz hsz (Nat.not_lt.mp hmax)).2.1
  | getContainer =>
    simp only [Queue.call, Framebuff.call]
    split
    next he => exact ⟨f, getContainer_none h he, h⟩
    next c e he =>
      obtain ⟨f', hf, hrep, -⟩ := getContainer_some h he
      exact ⟨f', hf, hrep⟩
  | freeContainer cnt =>
    obtain ⟨f', hf, hrep, -⟩ := freeContainer_eq h hc
    refine ⟨f', ?_, ?_⟩ <;> simp only [Queue.call, Framebuff.call, dif_pos (show cnt ∈ q.held from hc)]
    · rw [hf, Option.map_some]
    · exact hrep
  | queueContainer tgt =>
    obtain ⟨f', hf, hrep, -⟩ := queueContainer_eq h hc
    refine ⟨f', ?_, ?_⟩ <;> simp only [Queue.call, Framebuff.call, dif_pos (show tgt ∈ q.held from hc)]
    · rw [hf, Option.map_some]
    · exact hrep
  | dqValidContainer =>
    simp only [Queue.call, Framebuff.call]
    split
    next hvalid => exact ⟨f, dqValidContainer_none h hvalid, h⟩
    next v vs hvalid =>
      obtain ⟨f', hf, hrep, -⟩ := dqValidContainer_some h hvalid
      exact ⟨f', hf, hrep⟩
  | popCurrContainer =>
    simp only [Queue.call, Framebuff.call]
    split
    next v vs hvalid =>
      obtain ⟨f', hf, hrep, -⟩ := popCurrContainer_some h hvalid
      exact ⟨f', hf, hrep⟩
    next x hvalid hvacant =>
      obtain ⟨f', hf, hrep, -⟩ := popCurrContainer_single h hvalid hvacant
      exact ⟨f', hf, hrep⟩
    next hvalid hmore =>
      have hlen : q.vacant.length ≤ 1 := hc hvalid
      have hvacant : q.vacant = [] := by
        match hv : q.vacant with
        | [] => rfl
        | [x] => exact absurd hv (hmore x)
        | x :: y :: ys => simp [hv] at hlen
      have htop : f.vbufTop = none := by rw [h.top, Queue.queued, hvalid, hvacant]; rfl
      exact ⟨f, by simp [Framebuff.popCurrContainer, htop], h⟩
  | getVacantContainer =>
    refine ⟨{ f with vbufCurr := q.vacant.head? }, ?_, h.of_curr _⟩
    simp only [Framebuff.call, getVacantContainer_eq h, Queue.call]
  | captureDone =>
    obtain ⟨f', hf, hrep, -⟩ := captureDone_eq h
    exact ⟨f', by simp only [Framebuff.call, hf, Option.map_some, Queue.call], hrep⟩

/-- The pointers tell the queue, and all results were the same. -/
def Follows (s : Framebuff × List (Option Nat)) (a : Queue × List (Option Nat)) : Prop :=
  Rep s.1 a.1 ∧ s.2 = a.2

theorem follows_step (s : Framebuff × List (Option Nat)) (a : Queue × List (Option Nat)) (c : Call)
    (h : Follows s a) (hc : Queue.Allowed a c) :
    ∃ s', Framebuff.step s c = some s' ∧ Follows s' (Queue.step a c) := by
  obtain ⟨f', hf, hrep'⟩ := call_eq h.1 a.2 c hc
  refine ⟨(f', s.2 ++ [(a.1.call c).2]), ?_, hrep', ?_⟩
  · rw [Framebuff.step, hf, Option.map_some]
  · simp only [Queue.step, h.2]

theorem run_follows (calls : List Call)
    (h : Runs.EveryStep Queue.step Queue.Allowed (.fresh .ring 0, []) calls) :
    ∃ s, PartialRuns.run Framebuff.step (.init, []) calls = some s ∧
      Follows s (Runs.run Queue.step (.fresh .ring 0, []) calls) :=
  PartialRuns.run_refines Follows follows_step ⟨rep_init, rfl⟩ h

/-- Whatever the callers do, every call gives what the queue says, no pointer is followed
that leads nowhere, and each container is in exactly one place. -/
theorem framebuff_refines_queue (calls : List Call)
    (h : Runs.EveryStep Queue.step Queue.Allowed (.fresh .ring 0, []) calls) :
    ∃ f q log, PartialRuns.run Framebuff.step (.init, []) calls = some (f, log) ∧
      Runs.run Queue.step (.fresh .ring 0, []) calls = (q, log) ∧ Rep f q ∧
      (q.empty ++ q.held ++ q.valid ++ q.vacant).Perm (List.range f.containerSize) := by
  obtain ⟨⟨f, log⟩, hrun, hrep, hlog⟩ := run_follows calls h
  refine ⟨f, _, log, hrun, Prod.ext rfl hlog.symm, hrep, ?_⟩
  rw [hrep.size]
  exact Queue.perm _

/-- Two buffers and two captures in a ring: the first frame is given up, and the second
one is dequeued. -/
def overwritingCalls : List Call :=
  [.reqbufs .ring 2 true, .getContainer, .queueContainer 0, .getContainer, .queueContainer 1,
    .captureDone, .captureDone, .dqValidContainer]

theorem framebuff_refines_queue_overwriting :
    ∃ f, PartialRuns.run Framebuff.step (.init, []) overwritingCalls =
      some (f, [none, some 0, none, some 1, none, none, none, some 1]) := by
  have hallowed : Runs.EveryStep Queue.step Queue.Allowed (.fresh .ring 0, []) overwritingCalls := by
    refine ⟨⟨by decide, rfl⟩, trivial, ?_, trivial, ?_, trivial, trivial, trivial, trivial⟩
    · exact List.mem_cons_self
    · exact List.mem_cons_self
  obtain ⟨f, q, log, hrun, hlog, -⟩ := framebuff_refines_queue overwritingCalls hallowed
  have hlog' : (Runs.run Queue.step (.fresh .ring 0, []) overwritingCalls).2 =
      [none, some 0, none, some 1, none, none, none, some 1] := by decide
  rw [hlog] at hlog'
  exact ⟨f, hlog' ▸ hrun⟩

/-! ## A request that is not granted -/

end Sprefence.VideoFramebuff
