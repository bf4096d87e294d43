import LogWarden.Proofs.FileTail.Tailing

/-!
# Requests that fail or are dropped

A request for the next line gives a line that waits. If there is none it looks at the file, and
sleeps when that brought nothing. A look takes up to four accesses: the length of the file is asked
for, the file is opened, the place is sought from which it is to be read, and it is read in pieces.
Each access may fail, and the request may be dropped while it waits for one or sleeps. Only the last
access of a look changes the tail, so what the tail has brought to light depends on what the looks
saw that came to their end, and on nothing else.

## Implementation notes

What an access yields is free: the file may change between any two of them. Where it stays the same
during a look, the look does what `FileTail.look` says.
-/

namespace LogWarden

/-- What a request for a line waits for. -/
inductive LineRequest
  /-- The length of the file. -/
  | length
  /-- The file is opened, to be read from a place on. -/
  | opening (offset : Nat)
  | seeking (offset : Nat)
  /-- The file is read, and some of it has been. -/
  | reading (offset : Nat) (read : List UInt8)
  | asleep
  deriving DecidableEq, Repr

/-- What became of a request. -/
inductive RequestEnd
  | line (text : String)
  | failed (e : SourceError)
  | dropped
  deriving DecidableEq, Repr

def RequestEnd.line? : RequestEnd → Option String
  | .line text => some text
  | .failed _ | .dropped => none

/-- What happens to requests for lines, of which there is at most one at a time. -/
inductive RequestMove
  /-- A request is made. -/
  | ask
  /-- The file turns out to have so many bytes. -/
  | length (n : Nat)
  /-- The file has been opened, or the place has been found. -/
  | ready
  /-- So many bytes have been read. -/
  | bytes (more : List UInt8)
  /-- The end of the file has been reached. -/
  | atEnd
  /-- An access fails, since there is no file or for another cause. -/
  | fails (isMissing : Bool) (cause : String)
  | wakes
  | drop
  deriving DecidableEq, Repr

/-- What a look that came to its end saw: the length of the file or, where there was something to be
read, the bytes that were read. -/
inductive Sight
  | length (n : Nat)
  | bytes (read : List UInt8)
  deriving DecidableEq, Repr

namespace LineRequest

/-- The place from which the request reads. -/
def offset? : LineRequest → Option Nat
  | .opening offset | .seeking offset | .reading offset _ => some offset
  | .length | .asleep => none

/-- The error of an access. Only who asks for the length learns that there is no file. -/
def fault (path : String) (isMissing : Bool) (cause : String) : LineRequest → SourceError
  | .length => if isMissing then .fileMissing path else .io path cause
  | _ => .io path cause

end LineRequest

namespace FileTail

/-- The tail behind bytes that were read from a place on. -/
def take (t : FileTail) (offset : Nat) (read : List UInt8) : FileTail :=
  { t with
    offset := some (offset + (wholeLines read).flatten.length)
    pending := t.pending ++ t.encoding.lineTexts (wholeLines read) }

/-- The tail behind a look, by what the look saw. -/
def see (t : FileTail) : Sight → FileTail
  | .length n =>
    match t.offset with
    | none => { t with offset := some n }
    | some offset => if n < offset then { t with offset := some 0 } else t
  | .bytes read => t.take (t.offset.getD 0) read

/-- What a look sees of a file that does not change meanwhile. -/
def sightOf (t : FileTail) (bytes : List UInt8) : Sight :=
  match t.offset with
  | none => .length bytes.length
  | some offset =>
    if offset < bytes.length then .bytes (bytes.drop offset) else .length bytes.length

/-- The tail as if it had given back lines. -/
def withLines (t : FileTail) (lines : List String) : FileTail :=
  { t with pending := lines ++ t.pending }

variable {t : FileTail} {offset n : Nat} {lines : List String} {bytes : List UInt8} {x : Sight}

theorem see_sightOf (t : FileTail) (bytes : List UInt8) :
    t.see (t.sightOf bytes) = t.look bytes := by
  cases h : t.offset with
  | none => simp [see, sightOf, look, h]
  | some offset =>
      rcases Nat.lt_trichotomy offset bytes.length with hlt | rfl | hgt
      · have hle : ¬bytes.length < offset := Nat.not_lt.mpr (Nat.le_of_lt hlt)
        simp [see, sightOf, look, h, hlt, hle, take]
      · have hnone : wholeLines [] = [] := rfl
        have hsame : t = { t with offset := some bytes.length } := by rw [← h]
        simpa [see, sightOf, look, h, hnone, Encoding.lineTexts] using hsame
      · simp [see, sightOf, look, h, hgt, Nat.not_lt.mpr (Nat.le_of_lt hgt)]

theorem withLines_see : (t.withLines lines).see x = (t.see x).withLines lines := by
  cases x with
  | bytes => simp [see, take, withLines]
  | length n =>
      cases h : t.offset with
      | none => simp [see, withLines, h]
      | some offset => by_cases hlt : n < offset <;> simp [see, withLines, h, hlt]

end FileTail

/-- A tail with the request that is under way, and what became of the requests before it. -/
structure TailUse where
  tail : FileTail
  request : Option LineRequest
  ends : List RequestEnd
  deriving DecidableEq, Repr

namespace TailUse

/-- A tail of which nothing has been requested. -/
def start (t : FileTail) : TailUse := ⟨t, none, []⟩

/-- The lines that requests were given. -/
def given (u : TailUse) : List String := u.ends.filterMap RequestEnd.line?

/-- A request is given a line that waits, or begins to look. -/
def goOn (u : TailUse) : TailUse :=
  match u.tail.pending with
  | line :: rest => ⟨{ u.tail with pending := rest }, none, u.ends ++ [.line line]⟩
  | [] => { u with request := some .length }

/-- A request after a look, which left behind it this tail. -/
def looked (u : TailUse) (t : FileTail) : TailUse :=
  if t.pending.isEmpty && u.tail.offset.isSome then { u with tail := t, request := some .asleep }
  else { u with tail := t }.goOn

/-- A request ends without a line. -/
def leave (u : TailUse) (e : RequestEnd) : TailUse :=
  { u with request := none, ends := u.ends ++ [e] }

/-- What a move makes of a tail and its request, and what a look saw that comes to its end in it. A
move that does not fit changes nothing. -/
def turn (u : TailUse) (m : RequestMove) : TailUse × Option Sight :=
  match u.request with
  | none => if m = .ask then (u.goOn, none) else (u, none)
  | some r =>
    match m, r with
    | .drop, _ => (u.leave .dropped, none)
    | .fails isMissing cause, r =>
      if r = .asleep then (u, none)
      else (u.leave (.failed (r.fault u.tail.path isMissing cause)), none)
    | .length n, .length =>
      match u.tail.offset with
      | some offset =>
        if offset < n then ({ u with request := some (.opening offset) }, none)
        else (u.looked (u.tail.see (.length n)), some (.length n))
      | none => (u.looked (u.tail.see (.length n)), some (.length n))
    | .ready, .opening offset => ({ u with request := some (.seeking offset) }, none)
    | .ready, .seeking offset => ({ u with request := some (.reading offset []) }, none)
    | .bytes more, .reading offset read =>
      ({ u with request := some (.reading offset (read ++ more)) }, none)
    | .atEnd, .reading offset read =>
      (u.looked (u.tail.take offset read), some (.bytes read))
    | .wakes, .asleep => (u.goOn, none)
    | _, _ => (u, none)

def step (u : TailUse) (m : RequestMove) : TailUse := (u.turn m).1

def sight? (u : TailUse) (m : RequestMove) : Option Sight := (u.turn m).2

/-- What moves make of a tail and its request, one after another. -/
def run (u : TailUse) (moves : List RequestMove) : TailUse := moves.foldl step u

/-- What the looks saw that came to their end. -/
def sights (u : TailUse) : List RequestMove → List Sight
  | [] => []
  | m :: moves => (u.sight? m).toList ++ (u.step m).sights moves

/-- The tail as if it had not given any of its lines yet. -/
def whole (u : TailUse) : FileTail := u.tail.withLines u.given

/-- A request that waits for something has found no line, and reads from where the tail stands. -/
structure Fits (u : TailUse) : Prop where
  pending_eq : u.request.isSome → u.tail.pending = []
  offset_eq : ∀ r ∈ u.request, ∀ offset ∈ r.offset?, u.tail.offset = some offset

/-- What becomes of a tail and its request in a move, by what a look saw that came to its end. -/
inductive Change (u : TailUse) : Option Sight → TailUse → Prop
  | goOn (h : u.request = none ∨ u.request = some .asleep) : Change u none u.goOn
  | await {r} (h : u.request.isSome) (hr : ∀ offset ∈ r.offset?, u.tail.offset = some offset) :
      Change u none { u with request := some r }
  | leave {e : RequestEnd} (he : e.line? = none) : Change u none (u.leave e)
  | look {x} (h : u.request.isSome) : Change u (some x) (u.looked (u.tail.see x))
  | nothing : Change u none u

variable {u u' : TailUse} {t : FileTail} {m : RequestMove} {moves moves' : List RequestMove}
variable {x : Option Sight}

@[simp] theorem run_nil : u.run [] = u := rfl

@[simp] theorem run_cons : u.run (m :: moves) = (u.step m).run moves := rfl

theorem given_leave {e : RequestEnd} (he : e.line? = none) : (u.leave e).given = u.given := by
  simp [leave, given, he]

theorem goOn_whole (u : TailUse) : u.goOn.whole = u.whole := by
  cases h : u.tail.pending with
  | nil => simp [goOn, whole, given, h]
  | cons line rest => simp [goOn, whole, given, FileTail.withLines, RequestEnd.line?, h]

theorem looked_whole (u : TailUse) (t : FileTail) :
    (u.looked t).whole = t.withLines u.given := by
  rw [looked]
  split
  · rfl
  · exact goOn_whole _

theorem goOn_fits (u : TailUse) : u.goOn.Fits := by
  cases h : u.tail.pending with
  | nil =>
      have hgoOn : u.goOn = { u with request := some .length } := by rw [goOn, h]
      rw [hgoOn]
      refine ⟨fun _ => h, ?_⟩
      rintro r ⟨⟩ offset ⟨⟩
  | cons line rest =>
      rw [goOn, h]
      exact ⟨nofun, nofun⟩

theorem looked_fits (u : TailUse) (t : FileTail) : (u.looked t).Fits := by
  rw [looked]
  split
  · rename_i h
    refine ⟨fun _ => ?_, ?_⟩
    · simpa using (Bool.and_eq_true_iff.mp h).1
    · rintro r ⟨⟩ offset ⟨⟩
  · exact goOn_fits _

theorem turn_change (h : u.Fits) (m : RequestMove) : Change u (u.turn m).2 (u.turn m).1 := by
  have reads : ∀ {r offset}, u.request = some r → r.offset? = some offset →
      u.tail.offset = some offset :=
    fun hr ho => h.offset_eq _ hr _ ho
  fun_cases turn u m with
  | case1 hr => exact .goOn (.inl hr)
  | case3 | case5 => exact .leave rfl
  | case6 n offset ho hlt hr => exact .await (by simp [hr]) (by simp [LineRequest.offset?, ho])
  | case7 n offset ho hlt hr => exact .look (by simp [hr])
  | case8 n ho hr => exact .look (by simp [hr])
  | case9 offset hr | case10 offset hr =>
      exact .await (by simp [hr]) (by simp [LineRequest.offset?, reads hr rfl])
  | case11 more offset read hr =>
      exact .await (by simp [hr]) (by simp [LineRequest.offset?, reads hr rfl])
  | case12 offset read hr =>
      have hsee : u.tail.take offset read = u.tail.see (.bytes read) := by
        rw [FileTail.see, reads hr rfl, Option.getD_some]
      rw [hsee]
      exact .look (by simp [hr])
  | case13 hr => exact .goOn (.inr hr)
  | case2 | case4 | case14 => exact .nothing

theorem Change.fits (c : Change u x u') (h : u.Fits) : u'.Fits := by
  cases c with
  | goOn => exact goOn_fits u
  | await hsome hr =>
      refine ⟨fun _ => h.pending_eq hsome, ?_⟩
      rintro r ⟨⟩ offset ho
      exact hr offset ho
  | leave => exact ⟨nofun, nofun⟩
  | look => exact looked_fits ..
  | nothing => exact h

/-- What a tail has brought to light changes with what looks see, and with nothing else. -/
theorem Change.whole (c : Change u x u') : u'.whole = x.elim u.whole u.whole.see := by
  cases c with
  | goOn => exact goOn_whole u
  | leave he =>
      rw [TailUse.whole, given_leave he]
      rfl
  | look => rw [looked_whole, Option.elim_some, TailUse.whole, FileTail.withLines_see]
  | await | nothing => rfl

/-- As long as a request waits, nothing but a look changes the tail. -/
theorem Change.keeps (c : Change u none u') (h : u.Fits) (hr : u.request.isSome) :
    u'.tail = u.tail ∧ u'.given = u.given := by
  cases c with
  | goOn =>
      have hpending := h.pending_eq hr
      simp [TailUse.goOn, hpending, TailUse.given]
  | leave he => exact ⟨rfl, given_leave he⟩
  | await | nothing => exact ⟨rfl, rfl⟩

theorem start_fits (t : FileTail) : (start t).Fits := ⟨nofun, nofun⟩

theorem step_fits (h : u.Fits) : (u.step m).Fits := (turn_change h m).fits h

theorem run_fits (h : u.Fits) : (u.run moves).Fits := by
  induction moves generalizing u with
  | nil => exact h
  | cons m moves ih => exact ih (step_fits h)

/-- What a tail has brought to light after some moves is told by what the looks saw. -/
theorem run_whole (h : u.Fits) : (u.run moves).whole = (u.sights moves).foldl .see u.whole := by
  induction moves generalizing u with
  | nil => rfl
  | cons m moves ih =>
      have hstep : (u.step m).whole = (u.sight? m).elim u.whole u.whole.see :=
        (turn_change h m).whole
      rw [run_cons, ih (step_fits h), hstep, sights, List.foldl_append]
      cases u.sight? m <;> rfl

/-- The moves of a look at a file that does not change meanwhile, what is read of it being read in
some pieces. -/
def lookMoves (t : FileTail) (bytes : List UInt8) (pieces : List (List UInt8)) :
    List RequestMove :=
  match t.sightOf bytes with
  | .length n => [.length n]
  | .bytes _ =>
    [.length bytes.length, .ready, .ready] ++ pieces.map .bytes ++ [.atEnd]

theorem run_append (moves moves' : List RequestMove) :
    u.run (moves ++ moves') = (u.run moves).run moves' :=
  List.foldl_append

theorem run_pieces {offset : Nat} {read : List UInt8} (h : u.request = some (.reading offset read))
    (pieces : List (List UInt8)) :
    u.run (pieces.map .bytes) =
      { u with request := some (.reading offset (read ++ pieces.flatten)) } := by
  induction pieces generalizing u read with
  | nil => simp [← h]
  | cons piece pieces ih =>
      have hstep : u.step (.bytes piece) =
          { u with request := some (.reading offset (read ++ piece)) } := by
        simp [step, turn, h]
      have hrest := ih (u := { u with request := some (.reading offset (read ++ piece)) }) rfl
      rw [List.map_cons, run_cons, hstep, hrest]
      simp

/-- What follows a look does not depend on where the request stood. -/
theorem looked_of_request (u : TailUse) (r : Option LineRequest) (t : FileTail) :
    ({ u with request := r } : TailUse).looked t = u.looked t := by
  cases h : t.pending <;> simp [looked, goOn, h]

/-- A look that nothing disturbs makes of a tail what `FileTail.look` says. -/
theorem run_lookMoves {bytes : List UInt8} {pieces : List (List UInt8)}
    (h : u.request = some .length)
    (hpieces : pieces.flatten = bytes.drop (u.tail.offset.getD 0)) :
    u.run (lookMoves u.tail bytes pieces) = u.looked (u.tail.look bytes) := by
  have hlook := u.tail.see_sightOf bytes
  cases ho : u.tail.offset with
  | none =>
      have hsight : u.tail.sightOf bytes = .length bytes.length := by simp [FileTail.sightOf, ho]
      rw [← hlook, hsight, lookMoves, hsight]
      simp [step, turn, h, ho]
  | some offset =>
      rcases Nat.lt_or_ge offset bytes.length with hlt | hle
      · have hsight : u.tail.sightOf bytes = .bytes (bytes.drop offset) := by
          simp [FileTail.sightOf, ho, hlt]
        let opened : TailUse := { u with request := some (.reading offset []) }
        have hopen : u.run [.length bytes.length, .ready, .ready] = opened := by
          simp [step, turn, h, ho, hlt, opened]
        have hread : u.run ([.length bytes.length, .ready, .ready] ++ pieces.map .bytes) =
            { u with request := some (.reading offset (bytes.drop offset)) } := by
          have hrequest : opened.request = some (.reading offset []) := rfl
          rw [run_append, hopen, run_pieces hrequest, List.nil_append, hpieces, ho,
            Option.getD_some]
        rw [← hlook, hsight, lookMoves, hsight]
        simp only [run_append _ [_], hread]
        simp [step, turn, FileTail.see, ho, looked_of_request]
      · have hsight : u.tail.sightOf bytes = .length bytes.length := by
          simp [FileTail.sightOf, ho, Nat.not_lt.mpr hle]
        rw [← hlook, hsight, lookMoves, hsight]
        simp [step, turn, h, ho, Nat.not_lt.mpr hle]

/-- Two tails have brought the same to light: they stand at the same place, and the lines of one
that were given are those of the other, as far as both were given. -/
structure SameLines (u u' : TailUse) : Prop where
  offset_eq : u.tail.offset = u'.tail.offset
  found_eq : u.given ++ u.tail.pending = u'.given ++ u'.tail.pending
  prefix_or : u.given <+: u'.given ∨ u'.given <+: u.given
  given_eq : u.given.length = u'.given.length → u.given = u'.given ∧ u.tail = u'.tail

theorem sameLines_of_whole_eq (h : u.whole = u'.whole) : SameLines u u' := by
  have hfound : u.given ++ u.tail.pending = u'.given ++ u'.tail.pending :=
    congrArg FileTail.pending h
  have hoffset : u.whole.offset = u'.whole.offset := by rw [h]
  refine ⟨hoffset, hfound, List.prefix_or_prefix_of_prefix ⟨_, hfound⟩ ⟨_, rfl⟩, ?_⟩
  intro hlength
  obtain ⟨hgiven, hpending⟩ := List.append_inj hfound hlength
  refine ⟨hgiven, ?_⟩
  obtain ⟨⟨path, encoding, interval, offset, pending, asleepUntil⟩, _, _⟩ := u
  obtain ⟨⟨path', encoding', interval', offset', pending', asleepUntil'⟩, _, _⟩ := u'
  simp only [whole, FileTail.withLines, FileTail.mk.injEq] at h hpending ⊢
  exact ⟨h.1, h.2.1, h.2.2.1, h.2.2.2.1, hpending, h.2.2.2.2.2⟩

end TailUse

open TailUse

/-- While a request waits, nothing but a look that comes to its end changes the tail or the lines
that were given: no access that fails, no request that is dropped, no access in the midst of a look.
A look that nothing disturbs is `FileTail.look`. And where the looks of two schedules that came to
their end saw the same, whatever else failed or was dropped in either, the tail stands at the same
place, and the same lines are given in the same order. -/
theorem disturbed_requests_lose_no_line (t : FileTail) :
    (∀ moves m u, u = (start t).run moves → u.request.isSome → u.sight? m = none →
      (u.step m).tail = u.tail ∧ (u.step m).given = u.given) ∧
    (∀ moves u bytes pieces, u = (start t).run moves → u.request = some .length →
      pieces.flatten = bytes.drop (u.tail.offset.getD 0) →
      u.run (lookMoves u.tail bytes pieces) = u.looked (u.tail.look bytes)) ∧
    (∀ moves moves', (start t).sights moves = (start t).sights moves' →
      SameLines ((start t).run moves) ((start t).run moves')) := by
  refine ⟨?_, ?_, ?_⟩
  · rintro moves m u rfl hrequest hsight
    have hfits : ((start t).run moves).Fits := run_fits (start_fits t)
    have hchange := turn_change hfits m
    rw [show (TailUse.turn _ m).2 = none from hsight] at hchange
    exact hchange.keeps hfits hrequest
  · intro moves u bytes pieces _ hrequest hpieces
    exact run_lookMoves hrequest hpieces
  · intro moves moves' hsights
    refine sameLines_of_whole_eq ?_
    rw [run_whole (start_fits t), run_whole (start_fits t), hsights]

/-- A file that cannot be opened at first, the reading of which is given up once, and a request that
is dropped in its sleep: the lines are those of two requests that nothing disturbs. -/
theorem disturbed_requests_lose_no_line_of_retries :
    let t : FileTail := { FileTail.start "latest.log" .utf8 5 with offset := some 0 }
    let look : List RequestMove := [.length 4, .ready, .ready, .bytes [97, 10, 98, 10], .atEnd]
    let plain : List RequestMove := [.ask, .length 0, .wakes] ++ look ++ [.ask]
    let disturbed : List RequestMove :=
      [.ask, .length 0, .drop, .ask, .fails true "", .ask, .length 4, .fails false "denied",
        .ask, .length 4, .ready, .ready, .bytes [97, 10], .drop, .ask] ++ look ++ [.ask]
    let asked := (start t).run [.ask]
    (asked.step (.fails true "")).tail = asked.tail ∧
      asked.run (lookMoves asked.tail [97, 10, 98, 10] [[97, 10], [98, 10]]) =
        asked.looked (asked.tail.look [97, 10, 98, 10]) ∧
      (start t).sights plain = (start t).sights disturbed ∧
      ((start t).run disturbed).given = ["a", "b"] ∧
      SameLines ((start t).run plain) ((start t).run disturbed) := by
  intro t look plain disturbed asked
  obtain ⟨hkeeps, hlook, hsame⟩ := disturbed_requests_lose_no_line t
  have hsights : (start t).sights plain = (start t).sights disturbed := by decide +kernel
  refine ⟨?_, ?_, hsights, by decide +kernel, hsame plain disturbed hsights⟩
  · exact (hkeeps [.ask] (.fails true "") asked rfl rfl rfl).1
  · exact hlook [.ask] asked [97, 10, 98, 10] [[97, 10], [98, 10]] rfl rfl rfl

end LogWarden
