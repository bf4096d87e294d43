import LogWarden.Source.FileTail

/-!
# A tail at work

A tail is asked for lines while others write to its file. What happens comes in any order: bytes are
added, the file is replaced or removed, the tail is made to look, a request for a line takes a turn
or is given up. Whatever happens, only a look that does not fail changes what the tail has read.

## Implementation notes

Nothing happens to the file while the tail looks at it. A turn of a request is given the time at
which it is taken; the times need not be in order.
-/

namespace LogWarden

/-- What happens to a tail or to the file it reads. -/
inductive TailMove
  /-- At the path there is something else from now on, or nothing. -/
  | replace (file : FileState)
  /-- Bytes are added to the file. -/
  | append (more : List UInt8)
  | poll
  /-- A turn of a request for the next line. -/
  | ask (now : Nanos)
  | giveUp
  deriving DecidableEq, Repr

namespace FileState

/-- What a file holds, if there is one. -/
def content? : FileState → Option (List UInt8)
  | .content bytes | .closed bytes _ => some bytes
  | .absent | .unreadable _ => none

/-- A file to which bytes were added. -/
def grow (more : List UInt8) : FileState → FileState
  | .absent => .content more
  | .unreadable cause => .unreadable cause
  | .closed bytes cause => .closed (bytes ++ more) cause
  | .content bytes => .content (bytes ++ more)

theorem content?_grow {file : FileState} {bytes : List UInt8} (h : file.content? = some bytes)
    (more : List UInt8) : (file.grow more).content? = some (bytes ++ more) := by
  cases file with
  | absent | unreadable => simp [content?] at h
  | closed | content =>
      obtain rfl := Option.some.inj h
      rfl

end FileState

namespace TailMove

/-- What a move leaves at the path. -/
def fileAfter (file : FileState) : TailMove → FileState
  | .replace new => new
  | .append more => file.grow more
  | _ => file

/-- Whether a move leaves in the file what is there. -/
def keeps : TailMove → Bool
  | .replace _ => false
  | _ => true

end TailMove

/-- A tail with what is at its path, and the lines it has given. -/
structure Tailing where
  tail : FileTail
  file : FileState
  given : List String
  deriving DecidableEq, Repr

namespace FileTail

/-- The bytes that a tail sees when it looks at a file with success. -/
def sees? (t : FileTail) : FileState → Option (List UInt8)
  | .content bytes => some bytes
  | .closed bytes _ => if t.opens bytes.length then none else some bytes
  | .absent | .unreadable _ => none

variable {t : FileTail} {file : FileState} {bytes : List UInt8} {offset : Nat}

theorem content?_of_sees (h : t.sees? file = some bytes) : file.content? = some bytes := by
  cases file with
  | absent | unreadable => simp [sees?] at h
  | content => exact h
  | closed =>
      simp only [sees?] at h
      split at h
      · simp at h
      · exact h

theorem poll_of_sees (h : t.sees? file = some bytes) : t.poll file = .ok (t.look bytes) := by
  cases file with
  | absent | unreadable => simp [sees?] at h
  | content =>
      obtain rfl := Option.some.inj h
      rfl
  | closed bytes' cause =>
      by_cases hopens : t.opens bytes'.length = true
      · simp [sees?, hopens] at h
      · obtain rfl : bytes' = bytes := by simpa [sees?, hopens] using h
        simp [poll, hopens]

theorem poll_of_not_sees (h : t.sees? file = none) : ∃ e, t.poll file = .error e := by
  cases file with
  | absent => exact ⟨_, rfl⟩
  | unreadable => exact ⟨_, rfl⟩
  | content => simp [sees?] at h
  | closed bytes cause =>
      by_cases hopens : t.opens bytes.length = true
      · exact ⟨.io t.path cause, by simp [poll, hopens]⟩
      · simp [sees?, hopens] at h

theorem look_of_unread (h : t.offset = none) :
    t.look bytes = { t with offset := some bytes.length } := by
  simp [look, h]

theorem look_of_shrunk (h : t.offset = some offset) (hlt : bytes.length < offset) :
    t.look bytes = { t with offset := some 0 } := by
  simp [look, h, hlt]

theorem look_of_le (h : t.offset = some offset) (hle : offset ≤ bytes.length) :
    t.look bytes =
      { t with
        offset := some (offset + (wholeLines (bytes.drop offset)).flatten.length)
        pending := t.pending ++ t.encoding.lineTexts (wholeLines (bytes.drop offset)) } := by
  simp [look, h, Nat.not_lt.mpr hle]

theorem look_offset_ne_none (t : FileTail) (bytes : List UInt8) : (t.look bytes).offset ≠ none := by
  fun_cases FileTail.look t bytes <;> simp

theorem look_encoding (t : FileTail) (bytes : List UInt8) :
    (t.look bytes).encoding = t.encoding := by
  fun_cases FileTail.look t bytes <;> rfl

end FileTail

namespace Tailing

/-- A tail that has not looked at its file. -/
def start (path : String) (encoding : Encoding) (interval : Nanos) (file : FileState) : Tailing :=
  ⟨.start path encoding interval, file, []⟩

/-- What the tail has brought to light: the lines given, and behind them those that wait. -/
def found (s : Tailing) : List String := s.given ++ s.tail.pending

/-- What a move makes of a tail and its file. -/
def step (s : Tailing) : TailMove → Tailing
  | .replace new => { s with file := new }
  | .append more => { s with file := s.file.grow more }
  | .poll =>
    match s.tail.poll s.file with
    | .ok tail => { s with tail }
    | .error _ => s
  | .ask now =>
    match s.tail.next s.file now with
    | .goes tail => { s with tail }
    | .waits => s
    | .ends (tail, .ok line) => { s with tail, given := s.given ++ [line] }
    | .ends (tail, .error _) => { s with tail }
  | .giveUp => { s with tail := s.tail.wake }

/-- What moves make of a tail and its file, one after another. -/
def run (s : Tailing) (moves : List TailMove) : Tailing := moves.foldl step s

/-- The bytes that the tail sees in a move in which it looks at its file with success. A request
looks when no line waits and the tail does not sleep. -/
def sees? (s : Tailing) : TailMove → Option (List UInt8)
  | .poll => s.tail.sees? s.file
  | .ask now =>
    if s.tail.pending = [] ∧ s.tail.asleepUntil ≤ now then s.tail.sees? s.file else none
  | _ => none

/-- In none of the moves the tail looks at its file with success. -/
def IsBlind (s : Tailing) : List TailMove → Prop
  | [] => True
  | m :: rest => s.sees? m = none ∧ (s.step m).IsBlind rest

variable {s : Tailing} {m : TailMove} {bytes : List UInt8} {moves moves' : List TailMove}

@[simp] theorem run_nil : s.run [] = s := rfl

@[simp] theorem run_cons : s.run (m :: moves) = (s.step m).run moves := rfl

theorem run_append : s.run (moves ++ moves') = (s.run moves).run moves' :=
  List.foldl_append

theorem run_append_singleton : s.run (moves ++ [m]) = (s.run moves).step m := run_append

/-- In a look the tail makes of its file what `FileTail.look` says, and maybe falls asleep. -/
theorem step_of_sees (h : s.sees? m = some bytes) :
    ∃ asleepUntil, s.step m = { s with tail := { s.tail.look bytes with asleepUntil } } := by
  obtain ⟨tail, file, given⟩ := s
  cases m with
  | poll =>
      have hpoll : tail.poll file = .ok (tail.look bytes) := FileTail.poll_of_sees h
      exact ⟨(tail.look bytes).asleepUntil, by simp [step, hpoll]⟩
  | ask now =>
      obtain ⟨⟨hpending, hawake⟩, hfile⟩ :
          (tail.pending = [] ∧ tail.asleepUntil ≤ now) ∧ tail.sees? file = some bytes := by
        simpa [sees?] using h
      have hpoll := FileTail.poll_of_sees hfile
      by_cases hsleeps : ((tail.look bytes).pending.isEmpty && tail.offset.isSome) = true
      · refine ⟨now + tail.interval, ?_⟩
        simp [step, FileTail.next, hpoll, hpending, Nat.not_lt.mpr hawake, hsleeps]
      · refine ⟨(tail.look bytes).asleepUntil, ?_⟩
        simp [step, FileTail.next, hpoll, hpending, Nat.not_lt.mpr hawake, hsleeps]
  | _ => simp [sees?] at h

/-- What does not change unless the tail looks at its file: its path and encoding, up to where it
has read, and what it has brought to light. A line that is given was waiting. -/
structure Keeps (s s' : Tailing) : Prop where
  encoding_eq : s'.tail.encoding = s.tail.encoding
  offset_eq : s'.tail.offset = s.tail.offset
  found_eq : s'.found = s.found

theorem step_of_not_sees (h : s.sees? m = none) : Keeps s (s.step m) := by
  obtain ⟨tail, file, given⟩ := s
  cases m with
  | replace | append => exact ⟨rfl, rfl, rfl⟩
  | giveUp => exact ⟨rfl, rfl, rfl⟩
  | poll =>
      obtain ⟨e, hpoll⟩ := FileTail.poll_of_not_sees h
      refine ⟨?_, ?_, ?_⟩ <;> simp [step, hpoll]
  | ask now =>
      cases hpending : tail.pending with
      | cons line rest =>
          refine ⟨?_, ?_, ?_⟩ <;> simp [step, FileTail.next, found, hpending]
      | nil =>
          by_cases hawake : tail.asleepUntil ≤ now
          · obtain ⟨e, hpoll⟩ : ∃ e, tail.poll file = .error e :=
              FileTail.poll_of_not_sees (by simpa [sees?, hpending, hawake] using h)
            refine ⟨?_, ?_, ?_⟩ <;>
              simp [step, FileTail.next, hpoll, found, hpending, Nat.not_lt.mpr hawake]
          · refine ⟨?_, ?_, ?_⟩ <;>
              simp [step, FileTail.next, found, hpending, Nat.not_le.mp hawake]

theorem step_file (s : Tailing) (m : TailMove) : (s.step m).file = m.fileAfter s.file := by
  cases m with
  | replace | append | giveUp => rfl
  | poll => simp only [step]; split <;> rfl
  | ask now => simp only [step]; split <;> rfl

theorem Keeps.trans {s'' s' : Tailing} (h : Keeps s s') (h' : Keeps s' s'') : Keeps s s'' :=
  ⟨h'.encoding_eq.trans h.encoding_eq, h'.offset_eq.trans h.offset_eq,
    h'.found_eq.trans h.found_eq⟩

theorem IsBlind.keeps (h : s.IsBlind moves) : Keeps s (s.run moves) := by
  induction moves generalizing s with
  | nil => exact ⟨rfl, rfl, rfl⟩
  | cons m rest ih => exact (step_of_not_sees h.1).trans (ih h.2)

theorem run_invariant {P : Tailing → Prop} (hstep : ∀ s, ∀ m ∈ moves, P s → P (s.step m))
    (h : P s) : P (s.run moves) := by
  induction moves generalizing s with
  | nil => exact h
  | cons m rest ih =>
      exact ih (fun s' m' hm' => hstep s' m' (by simp [hm'])) (hstep s m (by simp) h)

theorem run_encoding (s : Tailing) (moves : List TailMove) :
    (s.run moves).tail.encoding = s.tail.encoding := by
  refine run_invariant (P := fun s' => s'.tail.encoding = s.tail.encoding) ?_ rfl
  intro s' m _ hs'
  cases hsees : s'.sees? m with
  | none => exact (step_of_not_sees hsees).encoding_eq.trans hs'
  | some bytes =>
      obtain ⟨asleepUntil, hstep⟩ := step_of_sees hsees
      rw [hstep, ← hs']
      exact s'.tail.look_encoding bytes

/-- Before its first look a tail has brought nothing to light. -/
theorem found_of_unread {path : String} {encoding : Encoding} {interval : Nanos} {file : FileState}
    (h : ((start path encoding interval file).run moves).tail.offset = none) :
    ((start path encoding interval file).run moves).found = [] := by
  refine run_invariant (P := fun s => s.tail.offset = none → s.found = []) ?_ (fun _ => rfl) h
  intro s m _ hs hnone
  cases hsees : s.sees? m with
  | none =>
      have hkeeps := step_of_not_sees hsees
      exact hkeeps.found_eq.trans (hs (hkeeps.offset_eq.symm.trans hnone))
  | some bytes =>
      obtain ⟨asleepUntil, hstep⟩ := step_of_sees hsees
      rw [hstep] at hnone
      exact absurd hnone (s.tail.look_offset_ne_none bytes)

/-- Taking what can be had is a run of requests. -/
theorem available_eq_run (now : Nanos) (turns : Nat) (s : Tailing) :
    ∃ n, s.run (.replicate n (.ask now)) =
      { s with
        tail := (FileTail.available s.file now turns s.tail).2
        given := s.given ++
          (FileTail.available s.file now turns s.tail).1.filterMap Except.toOption } := by
  induction turns generalizing s with
  | zero => exact ⟨0, by simp [FileTail.available]⟩
  | succ turns ih =>
      rw [FileTail.available]
      cases hnext : s.tail.next s.file now with
      | goes tail =>
          obtain ⟨n, hn⟩ := ih { s with tail }
          refine ⟨n + 1, ?_⟩
          rw [List.replicate_succ, run_cons, ← hn]
          simp [step, hnext]
      | waits => exact ⟨0, by simp⟩
      | ends result =>
          obtain ⟨tail, _ | line⟩ := result
          · exact ⟨1, by simp [step, hnext, Except.toOption]⟩
          · obtain ⟨n, hn⟩ := ih { s with tail, given := s.given ++ [line] }
            refine ⟨n + 1, ?_⟩
            rw [List.replicate_succ, run_cons]
            simp only [step, hnext, hn]
            simp [Except.toOption]

/-- Taking all the lines that can be had is a run of requests, the last of which is given up. -/
theorem takeAll_eq_run (s : Tailing) (now : Nanos) :
    ∃ n, s.run (.replicate n (.ask now) ++ [.giveUp]) =
      { s with
        tail := (s.tail.takeAll s.file now).2
        given := s.given ++ (s.tail.takeAll s.file now).1.filterMap Except.toOption } := by
  obtain ⟨n, hn⟩ := available_eq_run now (s.tail.enoughTurns s.file) s
  exact ⟨n, by rw [run_append_singleton, hn]; rfl⟩

end Tailing

end LogWarden
