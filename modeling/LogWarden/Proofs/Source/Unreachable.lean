import LogWarden.Proofs.Outcomes
import LogWarden.Proofs.FileTail.Tailing
import LogWarden.Source.Basic

/-!
# Streams without an endpoint

A stream that may make no attempt to connect, or whose endpoint is unknown, reads its file in place
of the endpoint as soon as it is asked for a line. From there on each turn of the stream is one of a
tail of that file: both give the same lines and the same errors, whatever becomes of the file. No
error and no request that is given up leads back to the endpoint.

## Implementation notes

A use of a source is either one turn or a poll, which takes turns until it has to wait or the request
ends. Turns are free in what is at the path from one to the next, so a file may change in the middle
of a request; in a poll nothing changes. An attempt to connect is one turn.
-/

namespace LogWarden

/-- What is done about a source. -/
inductive SourceUse
  /-- The next line is asked for at a time. -/
  | ask (around : Surroundings) (now : Nanos)
  /-- The request for a line is given up. -/
  | giveUp
  deriving DecidableEq, Repr

namespace FileTail

variable {t t' : FileTail} {file : FileState} {now : Nanos}

theorem look_interval (t : FileTail) (bytes : List UInt8) :
    (t.look bytes).interval = t.interval := by
  fun_cases FileTail.look t bytes <;> rfl

/-- A turn goes on only behind a look. The look has brought lines or the tail sleeps, unless it was
the first. -/
theorem look_of_goes (hpause : 0 < t.interval) (h : t.next file now = .goes t') :
    t'.interval = t.interval ∧ t'.offset ≠ none ∧
      (t'.pending ≠ [] ∨ now < t'.asleepUntil ∨ t.offset = none) := by
  have hnow : now < now + t.interval := Nat.lt_add_of_pos_right hpause
  cases hpending : t.pending with
  | cons line rest => simp [next, hpending] at h
  | nil =>
      by_cases hasleep : now < t.asleepUntil
      · simp [next, hpending, hasleep] at h
      · cases hsees : t.sees? file with
        | none =>
            obtain ⟨e, hpoll⟩ := poll_of_not_sees hsees
            simp [next, hpoll, hpending, hasleep] at h
        | some bytes =>
            simp only [next, hpending, hasleep, poll_of_sees hsees, if_false] at h
            split at h
            · obtain rfl := Turn.goes.inj h
              exact ⟨t.look_interval bytes, t.look_offset_ne_none bytes, .inr (.inl hnow)⟩
            next hgiven =>
              obtain rfl := Turn.goes.inj h
              refine ⟨t.look_interval bytes, t.look_offset_ne_none bytes, ?_⟩
              by_cases hfirst : t.offset = none
              · exact .inr (.inr hfirst)
              · exact .inl (by simpa [Option.isSome_iff_ne_none, hfirst] using hgiven)

/-- A tail with lines, or one that sleeps, does not go on. -/
theorem next_ne_goes (h : t.pending ≠ [] ∨ now < t.asleepUntil) : t.next file now ≠ .goes t' := by
  cases hpending : t.pending with
  | cons line rest => simp [next, hpending]
  | nil =>
      have hsleeps : now < t.asleepUntil := h.resolve_left (· hpending)
      simp [next, hpending, hsleeps]

theorem interval_of_ends {r : Except SourceError String} (h : t.next file now = .ends (t', r)) :
    t'.interval = t.interval := by
  cases hpending : t.pending with
  | cons line rest =>
      simp only [next, hpending, Turn.ends.injEq, Prod.mk.injEq] at h
      rw [← h.1]
  | nil =>
      by_cases hasleep : now < t.asleepUntil
      · simp [next, hpending, hasleep] at h
      · cases hsees : t.sees? file with
        | none =>
            obtain ⟨e, hpoll⟩ := poll_of_not_sees hsees
            simp only [next, hpending, hasleep, hpoll, if_false, Turn.ends.injEq,
              Prod.mk.injEq] at h
            rw [← h.1]
        | some bytes =>
            simp only [next, hpending, hasleep, poll_of_sees hsees, if_false] at h
            split at h <;> cases h

end FileTail

namespace Source

/-- The source after the request for a line was given up. -/
def wake : Source → Source
  | .tail t => .tail t.wake
  | .stream s => .stream s.wake
  | s => s

/-- What a use makes of a source, where to ask is to take a turn, and what the request ends with. -/
def step (s : Source) : SourceUse → Source × Option Reading
  | .ask around now =>
    match s.next around now with
    | .goes s => (s, none)
    | .waits => (s, none)
    | .ends (s, reading) => (s, some reading)
  | .giveUp => (s.wake, none)

/-- What uses make of a source, one after another, and what the requests end with. -/
def run (s : Source) : List SourceUse → Source × List Reading
  | [] => (s, [])
  | use :: uses =>
    (((s.step use).1.run uses).1, (s.step use).2.toList ++ ((s.step use).1.run uses).2)

/-- What uses make of a source, where to ask is to poll, and what the requests end with. -/
inductive Answers : Source → List SourceUse → Source → List Reading → Prop
  | nil {s} : Answers s [] s []
  | giveUp {s s' uses readings} (h : Answers s.wake uses s' readings) :
      Answers s (.giveUp :: uses) s' readings
  | goes {s s₁ s' around now uses readings} (h : s.next around now = .goes s₁)
      (hrest : Answers s₁ (.ask around now :: uses) s' readings) :
      Answers s (.ask around now :: uses) s' readings
  | waits {s s' around now uses readings} (h : s.next around now = .waits)
      (hrest : Answers s uses s' readings) : Answers s (.ask around now :: uses) s' readings
  | ends {s s₁ s' around now uses reading readings} (h : s.next around now = .ends (s₁, reading))
      (hrest : Answers s₁ uses s' readings) :
      Answers s (.ask around now :: uses) s' (reading :: readings)

/-- A stream that has given up on its endpoint after so many attempts, and the tail by which it reads
its file. -/
def FellBack (attempts : Nat) (stream tail : Source) : Prop :=
  ∃ s t, stream = .stream s ∧ tail = .tail t ∧
    s.isDegraded = true ∧ s.state = .degraded t ∧ s.attempts = attempts

/-- Two turns that do the same to sources that are related. -/
inductive Matches (R : Source → Source → Prop) :
    Turn Source (Source × Reading) → Turn Source (Source × Reading) → Prop
  | goes {x y} (h : R x y) : Matches R (.goes x) (.goes y)
  | waits : Matches R .waits .waits
  | ends {x y reading} (h : R x y) : Matches R (.ends (x, reading)) (.ends (y, reading))

theorem Matches.of_goes {R : Source → Source → Prop} {turn : Turn Source (Source × Reading)}
    {y : Source} (h : Matches R turn (.goes y)) : ∃ x, turn = .goes x ∧ R x y := by
  cases h with | goes h => exact ⟨_, rfl, h⟩

theorem Matches.of_waits {R : Source → Source → Prop} {turn : Turn Source (Source × Reading)}
    (h : Matches R turn .waits) : turn = .waits := by
  cases h; rfl

theorem Matches.of_ends {R : Source → Source → Prop} {turn : Turn Source (Source × Reading)}
    {y : Source} {reading : Reading} (h : Matches R turn (.ends (y, reading))) :
    ∃ x, turn = .ends (x, reading) ∧ R x y := by
  cases h with | ends h => exact ⟨_, rfl, h⟩

variable {s x y x' y' : Source} {uses : List SourceUse} {readings readings' : List Reading}
variable {attempts : Nat}

/-- There is one way in which a source answers. -/
theorem Answers.unique (h : Answers s uses x readings) (h' : Answers s uses y readings') :
    x = y ∧ readings = readings' := by
  induction h generalizing readings' with
  | nil => cases h'; exact ⟨rfl, rfl⟩
  | giveUp _ ih => cases h' with | giveUp h' => exact ih h'
  | goes hnext _ ih =>
      cases h' with
      | goes hnext' h' =>
          obtain rfl := Turn.goes.inj (hnext.symm.trans hnext')
          exact ih h'
      | waits hnext' => simp [hnext] at hnext'
      | ends hnext' => simp [hnext] at hnext'
  | waits hnext _ ih =>
      cases h' with
      | waits _ h' => exact ih h'
      | goes hnext' => simp [hnext] at hnext'
      | ends hnext' => simp [hnext] at hnext'
  | ends hnext _ ih =>
      cases h' with
      | ends hnext' h' =>
          obtain ⟨rfl, rfl⟩ := Prod.mk.inj (Turn.ends.inj (hnext.symm.trans hnext'))
          obtain ⟨rfl, rfl⟩ := ih h'
          exact ⟨rfl, rfl⟩
      | goes hnext' => simp [hnext] at hnext'
      | waits hnext' => simp [hnext] at hnext'

/-- A poll of a tail comes to its end where it does behind each turn that goes on. -/
theorem exists_answers_ask {t : FileTail} {around : Surroundings} {now : Nanos}
    (hgoes : ∀ t₁, t.next around.file now = .goes t₁ →
      ∃ t' readings, Answers (.tail t₁) (.ask around now :: uses) (.tail t') readings)
    (hrest : ∀ t₁ : FileTail, t₁.interval = t.interval →
      ∃ t' readings, Answers (.tail t₁) uses (.tail t') readings) :
    ∃ t' readings, Answers (.tail t) (.ask around now :: uses) (.tail t') readings := by
  cases hnext : t.next around.file now with
  | goes t₁ =>
      obtain ⟨t', readings, h⟩ := hgoes t₁ hnext
      exact ⟨t', readings, .goes (by simp [Source.next, hnext, Turn.map]) h⟩
  | waits =>
      obtain ⟨t', readings, h⟩ := hrest t rfl
      exact ⟨t', readings, .waits (by simp [Source.next, hnext, Turn.map]) h⟩
  | ends result =>
      obtain ⟨t₁, r⟩ := result
      obtain ⟨t', readings, h⟩ := hrest t₁ (FileTail.interval_of_ends hnext)
      exact ⟨t', .ofResult r :: readings, .ends (by simp [Source.next, hnext, Turn.map]) h⟩

theorem Answers.iff_eq (h : Answers s uses x readings) :
    Answers s uses y readings' ↔ y = x ∧ readings' = readings := by
  constructor
  · exact fun h' => h'.unique h
  · rintro ⟨rfl, rfl⟩
    exact h

/-- A tail that pauses between its looks answers whatever is done. -/
theorem exists_answers {t : FileTail} (hpause : 0 < t.interval) (uses : List SourceUse) :
    ∃ t' readings, Answers (.tail t) uses (.tail t') readings := by
  induction uses generalizing t with
  | nil => exact ⟨t, [], .nil⟩
  | cons use uses ih =>
      cases use with
      | giveUp =>
          obtain ⟨t', readings, h⟩ := ih (t := t.wake) hpause
          exact ⟨t', readings, .giveUp h⟩
      | ask around now =>
          have hrest {t : FileTail} (hpause : 0 < t.interval) (t₁ : FileTail)
              (h : t₁.interval = t.interval) := ih (h ▸ hpause : 0 < t₁.interval)
          -- A tail with lines or asleep, then one that has looked, at last one that has not.
          have hready {t : FileTail} (hpause : 0 < t.interval)
              (h : t.pending ≠ [] ∨ now < t.asleepUntil) :
              ∃ t' readings, Answers (.tail t) (.ask around now :: uses) (.tail t') readings :=
            exists_answers_ask (fun _ hgoes => absurd hgoes (FileTail.next_ne_goes h))
              (hrest hpause)
          have hlooked {t : FileTail} (hpause : 0 < t.interval) (h : t.offset ≠ none) :
              ∃ t' readings, Answers (.tail t) (.ask around now :: uses) (.tail t') readings := by
            refine exists_answers_ask (fun t₁ hgoes => ?_) (hrest hpause)
            obtain ⟨hinterval, -, hlook⟩ := FileTail.look_of_goes hpause hgoes
            exact hready (hinterval ▸ hpause) (hlook.imp_right (·.resolve_right h))
          refine exists_answers_ask (fun t₁ hgoes => ?_) (hrest hpause)
          obtain ⟨hinterval, hoffset, -⟩ := FileTail.look_of_goes hpause hgoes
          exact hlooked (hinterval ▸ hpause) hoffset

theorem FellBack.next (h : FellBack attempts x y) (around : Surroundings) (now : Nanos) :
    Matches (FellBack attempts) (x.next around now) (y.next around now) := by
  obtain ⟨s, t, rfl, rfl, -, hstate, hattempts⟩ := h
  have hsame (t' : FileTail) :
      FellBack attempts (.stream { s with state := .degraded t' }) (.tail t') :=
    ⟨_, t', rfl, rfl, rfl, rfl, hattempts⟩
  cases hnext : t.next around.file now with
  | goes t' => simpa [Source.next, StreamSource.next, hstate, hnext] using .goes (hsame t')
  | waits => simpa [Source.next, StreamSource.next, hstate, hnext] using .waits
  | ends result =>
      simpa [Source.next, StreamSource.next, hstate, hnext] using .ends (hsame result.1)

theorem FellBack.wake (h : FellBack attempts x y) : FellBack attempts x.wake y.wake := by
  obtain ⟨s, t, rfl, rfl, -, hstate, hattempts⟩ := h
  refine ⟨{ s with state := .degraded t.wake }, t.wake, ?_, rfl, rfl, rfl, hattempts⟩
  simp [Source.wake, StreamSource.wake, hstate]

/-- Behind a use both stand as before it, and have given the same. -/
theorem FellBack.step (h : FellBack attempts x y) (use : SourceUse) :
    (x.step use).2 = (y.step use).2 ∧ FellBack attempts (x.step use).1 (y.step use).1 := by
  cases use with
  | giveUp => exact ⟨rfl, h.wake⟩
  | ask around now =>
      have hnext := h.next around now
      simp only [Source.step]
      cases hx : x.next around now <;> cases hy : y.next around now <;> rw [hx, hy] at hnext
      all_goals cases hnext
      · exact ⟨rfl, ‹_›⟩
      · exact ⟨rfl, h⟩
      · exact ⟨rfl, ‹_›⟩

theorem FellBack.run (h : FellBack attempts x y) (uses : List SourceUse) :
    (x.run uses).2 = (y.run uses).2 ∧ FellBack attempts (x.run uses).1 (y.run uses).1 := by
  induction uses generalizing x y with
  | nil => exact ⟨rfl, h⟩
  | cons use uses ih =>
      obtain ⟨hgiven, hstep⟩ := h.step use
      obtain ⟨hrest, hrun⟩ := ih hstep
      exact ⟨by rw [Source.run, Source.run, hgiven, hrest], hrun⟩

theorem FellBack.answers (h : FellBack attempts x y) (hy : Answers y uses y' readings) :
    ∃ x', Answers x uses x' readings ∧ FellBack attempts x' y' := by
  induction hy generalizing x with
  | nil => exact ⟨x, .nil, h⟩
  | giveUp _ ih =>
      obtain ⟨x', hx', h'⟩ := ih h.wake
      exact ⟨x', .giveUp hx', h'⟩
  | goes hnext _ ih =>
      obtain ⟨x₁, hx, hstep⟩ := (hnext ▸ h.next _ _).of_goes
      obtain ⟨x', hx', h'⟩ := ih hstep
      exact ⟨x', .goes hx hx', h'⟩
  | waits hnext _ ih =>
      obtain ⟨x', hx', h'⟩ := ih h
      exact ⟨x', .waits (hnext ▸ h.next _ _).of_waits hx', h'⟩
  | ends hnext _ ih =>
      obtain ⟨x₁, hx, hstep⟩ := (hnext ▸ h.next _ _).of_ends
      obtain ⟨x', hx', h'⟩ := ih hstep
      exact ⟨x', .ends hx hx', h'⟩

section Unreachable

variable {settings : IngestSettings} {stream tail : Source}

/-- The sources of the settings in both modes: a stream that has not been tried, and a tail as the
stream has it to fall back on. -/
theorem ofSettings_modes (hstream : ofSettings { settings with mode := .stream } = .ok stream)
    (htail : ofSettings { settings with mode := .file } = .ok tail) :
    ∃ t : FileTail, 0 < t.interval ∧ tail = .tail t ∧
      stream = .stream (.start settings.addr settings.retryLimit settings.retryBackoff t) := by
  obtain ⟨e, he, hstream⟩ := bind_eq_ok_iff.mp hstream
  obtain ⟨e', he', htail⟩ := bind_eq_ok_iff.mp htail
  obtain rfl : e = e' := Except.ok.inj (he.symm.trans he')
  have hpause : 0 < max settings.pollInterval clockTick :=
    Nat.lt_of_lt_of_le (by decide) (Nat.le_max_right _ clockTick)
  exact ⟨_, hpause, (Except.ok.inj htail).symm, (Except.ok.inj hstream).symm⟩

/-- In its first turn a stream without an endpoint falls back on its tail. -/
theorem next_start {around : Surroundings} (addr : String) {limit : Nat} (backoff : Nanos)
    (t : FileTail) (hnone : limit = 0 ∨ around.endpoint = .unknown) (now : Nanos) :
    ∃ x, (Source.stream (.start addr limit backoff t)).next around now = .goes x ∧
      FellBack (min limit 1) x (.tail t) := by
  refine ⟨_, rfl, _, t, rfl, rfl, ?_⟩
  cases limit with
  | zero => simp [StreamSource.start, StreamSource.connect, StreamSource.isDegraded]
  | succ limit =>
      have hunknown : around.endpoint = .unknown := hnone.resolve_left (by simp)
      simp [StreamSource.start, StreamSource.connect, StreamSource.isDegraded, hunknown]

/-- A stream that may make no attempt to connect, or whose endpoint is unknown when it is first asked
for a line, gives the lines and errors of a tail with the same settings, whatever is done about both
and whatever becomes of the file. From its first turn on it reads the file, and no attempt is made
any more: one has been made, or none where none was allowed. By turns, the tail is behind the stream
by that first turn. By polls, both are asked at the same times, and each answers in one way only. -/
theorem stream_reads_as_tail (settings : IngestSettings) (around : Surroundings) (now : Nanos)
    (hstream : ofSettings { settings with mode := .stream } = .ok stream)
    (htail : ofSettings { settings with mode := .file } = .ok tail)
    (hnone : settings.retryLimit = 0 ∨ around.endpoint = .unknown) (uses : List SourceUse) :
    ((stream.run (.ask around now :: uses)).2 = (tail.run uses).2 ∧
      FellBack (min settings.retryLimit 1) (stream.run (.ask around now :: uses)).1
        (tail.run uses).1) ∧
    ∃ stream' tail' readings,
      (∀ x r, Answers stream (.ask around now :: uses) x r ↔ x = stream' ∧ r = readings) ∧
      (∀ y r, Answers tail (.ask around now :: uses) y r ↔ y = tail' ∧ r = readings) ∧
      FellBack (min settings.retryLimit 1) stream' tail' := by
  obtain ⟨t, hpause, rfl, rfl⟩ := ofSettings_modes hstream htail
  obtain ⟨x, hx, hfell⟩ := next_start settings.addr settings.retryBackoff t hnone now
  constructor
  · simpa [run, step, hx] using hfell.run uses
  · obtain ⟨t', readings, htail'⟩ := exists_answers hpause (.ask around now :: uses)
    obtain ⟨x', hx', hfell'⟩ := hfell.answers htail'
    exact ⟨x', .tail t', readings, fun _ _ => (Answers.goes hx hx').iff_eq,
      fun _ _ => htail'.iff_eq, hfell'⟩

/-- The file is missing at first, then there, then a line is added to it, and at last it is cut. -/
theorem stream_reads_as_tail_of_cut_file :
    ∃ stream tail, ofSettings { encoding := "ascii", mode := .stream } = .ok stream ∧
      ofSettings { encoding := "ascii", mode := .file } = .ok tail ∧
      (stream.run
        [.ask ⟨.absent, .unknown⟩ 0, .ask ⟨.absent, .unknown⟩ 0, .ask ⟨.content [], .unknown⟩ 1,
          .ask ⟨.content [], .unknown⟩ 2, .giveUp, .ask ⟨.content [104, 105, 10], .refusing⟩ 3,
          .ask ⟨.content [104], .unknown⟩ 4, .ask ⟨.content [104], .unknown⟩ 5]).2
        = [.failed (.fileMissing "latest.log"), .line "hi"] :=
  ⟨_, _, rfl, rfl, (stream_reads_as_tail { encoding := "ascii" } ⟨.absent, .unknown⟩ 0 rfl rfl
    (.inr rfl) _).1.1.trans rfl⟩

end Unreachable

end Source

end LogWarden
