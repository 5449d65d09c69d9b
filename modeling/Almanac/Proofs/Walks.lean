/-
This file proves where a walk from period to period leads. A move leaves the period
that a text asks for over one of its edges, by one microsecond. Days and weeks divide
the count of days into pieces of one width, and the moment on the other side of an edge
lies in the piece next to it; so every move shifts the piece by its width, one way or
the other, and after any number of moves only their balance counts. A session takes the
same walk in steps of its own, two for each move.
-/

import Almanac.Proofs.Outcomes
import Almanac.Proofs.RelativePeriods
import Almanac.Session

namespace Almanac

open Text

/-! ### Moves -/

/-- The place next to a run between two places, over one of its edges. -/
def Edge.beyond (first last : Int) : Edge → Int
  | start => first - 1
  | finish => last + 1

/-- How many more moves of a walk go forward than back. -/
def balance (edges : List Edge) : Int := edges.count .finish - edges.count .start

theorem balance_cons (edge : Edge) (edges : List Edge) :
    balance (edge :: edges) = edge.outward + balance edges := by
  unfold balance
  cases edge <;> simp [Edge.outward] <;> omega

theorem balance_replicate (count : Nat) (edge : Edge) :
    balance (.replicate count edge) = count * edge.outward := by
  unfold balance
  cases edge <;> simp [Edge.outward, List.count_replicate]

/-! ### Pieces of one width -/

/-- A division of the endless count of days into pieces of one width. Every place lies in the piece
that starts at its `start`. -/
structure Tiling where
  width : Nat
  positive : 1 ≤ width
  start : Int → Int
  start_next : ∀ place, start (start place + width) = start place + width
  start_previous : ∀ place, start (start place - 1) = start place - width

namespace Tiling

/-- Over an edge of a piece lies the piece next to it. -/
theorem start_beyond (pieces : Tiling) (place : Int) (edge : Edge) :
    pieces.start (edge.beyond (pieces.start place) (pieces.start place + pieces.width - 1)) =
      pieces.start place + pieces.width * edge.outward := by
  cases edge with
  | start =>
    change pieces.start (pieces.start place - 1) = _ + _ * -1
    rw [pieces.start_previous, Int.mul_neg_one]
    rfl
  | finish =>
    change pieces.start (pieces.start place + pieces.width - 1 + 1) = _ + _ * 1
    rw [Int.sub_add_cancel, pieces.start_next, Int.mul_one]

/-- The calendar holds the piece that starts at a place. -/
def HeldAt (pieces : Tiling) (start : Int) : Prop := InCalendar start (start + pieces.width - 1)

/-- With two pieces the calendar holds the ones between them. -/
theorem heldAt_between {pieces : Tiling} {start : Int} {edge : Edge} {count : Nat}
    (begins : pieces.HeldAt start)
    (ends : pieces.HeldAt (start + pieces.width * ((count + 1 : Nat) * edge.outward))) :
    pieces.HeldAt (start + pieces.width * edge.outward) := by
  have more : 0 ≤ (pieces.width : Int) * count := Int.mul_nonneg (by omega) (by omega)
  have apart : (pieces.width : Int) * ((count + 1 : Nat) * edge.outward) =
      pieces.width * edge.outward + pieces.width * count * edge.outward := by
    rw [Int.natCast_succ, Int.add_mul, Int.one_mul, Int.mul_add, Int.add_comm, Int.mul_assoc]
  rw [apart] at ends
  unfold HeldAt InCalendar at *
  cases edge <;> simp only [Edge.outward] at * <;> omega

/-- Each day is a piece of its own. -/
def days : Tiling where
  width := 1
  positive := Nat.le_refl 1
  start place := place
  start_next _ := rfl
  start_previous _ := rfl

/-- The pieces are the weeks. -/
def weeks (firstDay : FirstDay) : Tiling where
  width := 7
  positive := by decide
  start place := weekPlace place firstDay
  start_next place := by
    unfold weekPlace
    omega
  start_previous place := by
    unfold weekPlace
    omega

end Tiling

namespace Resolver

/-- A text asks for the piece that holds today. -/
def AsksForPiece (text : Option String) (tiling : FirstDay → Tiling) : Prop :=
  ∀ (resolver : Resolver) (resolution : Resolution),
    resolver.resolve? text = .ok (some resolution) ↔
      resolution.form = .keyword ∧ resolution.Spans resolver.now.offset
        ((tiling resolver.firstDay).start resolver.place)
        ((tiling resolver.firstDay).start resolver.place + (tiling resolver.firstDay).width - 1)

theorem asksForPiece_today : AsksForPiece (some "today") fun _ => .days := by
  intro resolver resolution
  rw [resolve?_today_iff]
  have same : resolver.place + (1 : Nat) - 1 = resolver.place := Int.add_sub_cancel _ _
  dsimp only [Tiling.days]
  rw [same]

theorem asksForPiece_thisWeek : AsksForPiece (some "thisweek") .weeks := by
  intro resolver resolution
  rw [resolve?_thisWeek_iff]
  have same : resolver.weekStart + (7 : Nat) - 1 = resolver.weekStart + 6 := by omega
  dsimp only [Tiling.weeks]
  change _ ↔ _ ∧ resolution.Spans _ resolver.weekStart (resolver.weekStart + (7 : Nat) - 1)
  rw [same]

/-! ### One move -/

theorem resolve_eq_ok_iff (resolver : Resolver) (text : Option String) (resolution : Resolution) :
    resolver.resolve text = .ok resolution ↔ resolver.resolve? text = .ok (some resolution) := by
  unfold resolve
  cases resolver.resolve? text with
  | error error => simp
  | ok found => cases found <;> simp

theorem cross_eq_ok_iff (text : Option String) (resolver next : Resolver) (edge : Edge) :
    resolver.cross text edge = .ok next ↔
      ∃ resolution now, resolver.resolve? text = .ok (some resolution) ∧
        (edge.of resolution.period).shift edge.outward = .ok now ∧
        { resolver with now := now } = next := by
  unfold cross
  simp only [bind_eq_ok_iff, resolve_eq_ok_iff, mapError_eq_ok_iff, exists_and_left]
  simp only [pure, Except.pure, Except.ok.injEq]

/-- A move over an edge ends on the day next to it, on the same clock. -/
theorem place_of_crossing {resolution : Resolution} {offset : Option Offset} {first last : Int}
    (spans : resolution.Spans offset first last) {edge : Edge} {now : Moment}
    (crossing : (edge.of resolution.period).shift edge.outward = .ok now) :
    now.offset = offset ∧ (now.date.ordinal : Int) = edge.beyond first last := by
  have small := now.microsecond_lt
  have clock : now.clock = now.date.ordinal * microsecondsPerDay + now.microsecond := rfl
  cases edge with
  | start =>
    obtain ⟨startClock, startOnClock⟩ := spans.start_spec
    obtain ⟨reached, onClock⟩ := (Moment.shift_eq_ok_iff resolution.period.start now (-1)).1 crossing
    refine ⟨onClock.trans startOnClock, ?_⟩
    rw [startClock, clock] at reached
    unfold microsecondsPerDay at *
    change _ = first - 1
    omega
  | finish =>
    obtain ⟨finishClock, finishOnClock⟩ := spans.finish_spec
    obtain ⟨reached, onClock⟩ := (Moment.shift_eq_ok_iff resolution.period.finish now 1).1 crossing
    refine ⟨onClock.trans finishOnClock, ?_⟩
    rw [finishClock, clock] at reached
    unfold microsecondsPerDay at *
    change _ = last + 1
    omega

/-- One resolver is another one, moved by a number of pieces on its clock. -/
structure MovedBy (pieces : Tiling) (count : Int) (resolver moved : Resolver) : Prop where
  firstDay_eq : moved.firstDay = resolver.firstDay
  lexicon_eq : moved.lexicon = resolver.lexicon
  offset_eq : moved.now.offset = resolver.now.offset
  start_eq : pieces.start moved.place = pieces.start resolver.place + pieces.width * count

section Pieces

variable {text : Option String} {tiling : FirstDay → Tiling} (asks : AsksForPiece text tiling)
include asks

/-- Every move leads to the piece next to that of today. -/
theorem AsksForPiece.movedBy_of_cross {resolver next : Resolver} {edge : Edge}
    (crossed : resolver.cross text edge = .ok next) :
    MovedBy (tiling resolver.firstDay) edge.outward resolver next := by
  obtain ⟨resolution, now, answers, crossing, rfl⟩ := (cross_eq_ok_iff _ _ _ _).1 crossed
  obtain ⟨-, spans⟩ := (asks resolver resolution).1 answers
  obtain ⟨onClock, place⟩ := place_of_crossing spans crossing
  refine ⟨rfl, rfl, onClock, ?_⟩
  change (tiling resolver.firstDay).start (now.date.ordinal : Int) = _
  rw [place, Tiling.start_beyond]

/-- A walk leads as many pieces away as it goes forward more often than back. -/
theorem AsksForPiece.movedBy_of_walk {resolver last : Resolver} {edges : List Edge}
    (walked : resolver.walk text edges = .ok last) :
    MovedBy (tiling resolver.firstDay) (balance edges) resolver last := by
  induction edges generalizing resolver with
  | nil =>
    obtain rfl : resolver = last := Except.ok.inj walked
    exact ⟨rfl, rfl, rfl, (Int.add_zero _).symm⟩
  | cons edge rest inductionHypothesis =>
    obtain ⟨next, crossed, walkedOn⟩ := (bind_eq_ok_iff _ _ _).1 walked
    have step := asks.movedBy_of_cross crossed
    have run := inductionHypothesis walkedOn
    rw [step.firstDay_eq] at run
    refine ⟨run.firstDay_eq.trans step.firstDay_eq, run.lexicon_eq.trans step.lexicon_eq,
      run.offset_eq.trans step.offset_eq, ?_⟩
    rw [run.start_eq, step.start_eq, balance_cons, Int.mul_add, Int.add_assoc]

/-- There is an answer exactly if the calendar holds the piece of today. -/
theorem AsksForPiece.exists_answer_iff (resolver : Resolver) :
    (∃ resolution, resolver.resolve? text = .ok (some resolution)) ↔
      (tiling resolver.firstDay).HeldAt ((tiling resolver.firstDay).start resolver.place) := by
  have positive := (tiling resolver.firstDay).positive
  simp only [asks resolver]
  rw [Tiling.HeldAt, ← Days.exists_spanning_eq_iff (by omega)]
  simp only [Days.spanning_eq_ok_iff]
  constructor
  · rintro ⟨resolution, -, -, sameFirst, sameLast⟩
    exact ⟨resolution.days, sameFirst, sameLast⟩
  · rintro ⟨days, sameFirst, sameLast⟩
    exact ⟨⟨.keyword, days, resolver.now.offset⟩, rfl, rfl, sameFirst, sameLast⟩

/-- A piece as far from that of today as given is held by the calendar if its days are. -/
theorem AsksForPiece.heldAt_iff {resolver : Resolver} {resolution : Resolution}
    (answers : resolver.resolve? text = .ok (some resolution)) (distance : Int) :
    (tiling resolver.firstDay).HeldAt ((tiling resolver.firstDay).start resolver.place + distance) ↔
      InCalendar (resolution.days.first.ordinal + distance)
        (resolution.days.last.ordinal + distance) := by
  obtain ⟨-, spans⟩ := (asks resolver resolution).1 answers
  rw [spans.first_eq, spans.last_eq]
  unfold Tiling.HeldAt InCalendar
  omega

/-- The edge of a piece can be crossed if the calendar holds the piece on the other side. -/
theorem AsksForPiece.exists_cross {resolver : Resolver} {resolution : Resolution}
    (answers : resolver.resolve? text = .ok (some resolution)) {edge : Edge}
    (held : (tiling resolver.firstDay).HeldAt ((tiling resolver.firstDay).start resolver.place +
      (tiling resolver.firstDay).width * edge.outward)) :
    ∃ next, resolver.cross text edge = .ok next := by
  have positive := (tiling resolver.firstDay).positive
  obtain ⟨-, spans⟩ := (asks resolver resolution).1 answers
  rw [Tiling.HeldAt, ← Days.exists_spanning_eq_iff (by omega)] at held
  simp only [Days.spanning_eq_ok_iff] at held
  obtain ⟨days, sameFirst, sameLast⟩ := held
  let other : Resolution := ⟨.keyword, days, resolver.now.offset⟩
  have otherSpans : other.Spans resolver.now.offset _ _ := ⟨rfl, sameFirst, sameLast⟩
  simp only [cross_eq_ok_iff]
  cases edge with
  | start =>
    have adjoins : other.period.Adjoins resolution.period :=
      otherSpans.adjoins spans (by rw [Edge.outward]; omega)
    exact ⟨_, resolution, _, answers, Moment.shift_back adjoins, rfl⟩
  | finish =>
    have adjoins : resolution.period.Adjoins other.period :=
      spans.adjoins otherSpans (by rw [Edge.outward]; omega)
    exact ⟨_, resolution, _, answers, adjoins, rfl⟩

/-- Every piece that the calendar holds is reached by moves in one direction. -/
theorem AsksForPiece.exists_walk {resolver : Resolver} {resolution : Resolution}
    (answers : resolver.resolve? text = .ok (some resolution)) (edge : Edge) (count : Nat)
    (held : (tiling resolver.firstDay).HeldAt ((tiling resolver.firstDay).start resolver.place +
      (tiling resolver.firstDay).width * (count * edge.outward))) :
    ∃ last, resolver.walk text (List.replicate count edge) = .ok last := by
  induction count generalizing resolver resolution with
  | zero => exact ⟨resolver, rfl⟩
  | succ count inductionHypothesis =>
    have begins := (asks.exists_answer_iff resolver).1 ⟨resolution, answers⟩
    have between := Tiling.heldAt_between begins held
    obtain ⟨next, crossed⟩ := asks.exists_cross answers between
    have moved := asks.movedBy_of_cross crossed
    obtain ⟨answer, nextAnswers⟩ := (asks.exists_answer_iff next).2
      (by rw [moved.firstDay_eq, moved.start_eq]; exact between)
    have heldOn : (tiling next.firstDay).HeldAt ((tiling next.firstDay).start next.place +
        (tiling next.firstDay).width * (count * edge.outward)) := by
      rw [moved.firstDay_eq, moved.start_eq, Int.add_assoc, ← Int.mul_add]
      rwa [Int.natCast_succ, Int.add_mul, Int.one_mul, Int.add_comm (_ * _)] at held
    obtain ⟨last, walkedOn⟩ := inductionHypothesis nextAnswers heldOn
    exact ⟨last, (bind_eq_ok_iff _ _ _).2 ⟨next, crossed, walkedOn⟩⟩

/-! ### Walks -/

section Walked

variable {resolver last : Resolver} {initial : Resolution} {edges : List Edge}
  (answers : resolver.resolve? text = .ok (some initial))
  (walked : resolver.walk text edges = .ok last)
include answers walked

/-- The answer after a walk is the first one, shifted by the balance of the moves. -/
theorem AsksForPiece.shiftedBy_of_walk {final : Resolution}
    (answersLast : last.resolve? text = .ok (some final)) :
    initial.period.ShiftedBy ((tiling resolver.firstDay).width * balance edges) final.period := by
  have moved := asks.movedBy_of_walk walked
  obtain ⟨-, spans⟩ := (asks resolver initial).1 answers
  obtain ⟨-, spansFinal⟩ := (asks last final).1 answersLast
  rw [moved.firstDay_eq, moved.start_eq, moved.offset_eq] at spansFinal
  exact spans.shiftedBy spansFinal rfl (by omega)

/-- There is an answer after a walk exactly if the calendar holds the shifted piece. -/
theorem AsksForPiece.exists_answer_of_walk_iff :
    (∃ final, last.resolve? text = .ok (some final)) ↔
      InCalendar (initial.days.first.ordinal + (tiling resolver.firstDay).width * balance edges)
        (initial.days.last.ordinal + (tiling resolver.firstDay).width * balance edges) := by
  have moved := asks.movedBy_of_walk walked
  rw [asks.exists_answer_iff, moved.firstDay_eq, moved.start_eq, asks.heldAt_iff answers]

/-- A walk is back at the first answer exactly if it went forward as often as back. -/
theorem AsksForPiece.answers_again_iff :
    last.resolve? text = .ok (some initial) ↔ balance edges = 0 := by
  have moved := asks.movedBy_of_walk walked
  have positive := (tiling resolver.firstDay).positive
  obtain ⟨sameForm, spans⟩ := (asks resolver initial).1 answers
  rw [asks last initial, moved.firstDay_eq, moved.start_eq, moved.offset_eq]
  constructor
  · rintro ⟨-, again⟩
    have stays : ((tiling resolver.firstDay).width : Int) * balance edges = 0 := by
      have same := again.first_eq.symm.trans spans.first_eq
      omega
    rcases Int.mul_eq_zero.1 stays with noWidth | even
    · omega
    · exact even
  · intro even
    rw [even, Int.mul_zero, Int.add_zero]
    exact ⟨sameForm, spans⟩

end Walked

end Pieces

/-- The piece of today and its width, for the two texts that ask for one. -/
theorem exists_tiling {text : String} {width : Nat}
    (member : (text, width) ∈ [("thisweek", 7), ("today", 1)]) :
    ∃ tiling, AsksForPiece (some text) tiling ∧ ∀ firstDay, (tiling firstDay).width = width := by
  simp only [List.mem_cons, Prod.mk.injEq, List.not_mem_nil, or_false] at member
  rcases member with ⟨rfl, rfl⟩ | ⟨rfl, rfl⟩
  · exact ⟨_, asksForPiece_thisWeek, fun _ => rfl⟩
  · exact ⟨_, asksForPiece_today, fun _ => rfl⟩

/-- A walk over the weeks, or over the days, keeps the clock, and after it the answer is the first
one, shifted by as many weeks or days as it went forward more often than back, if the calendar holds
them. So a walk is back at the first answer exactly if it went both ways equally often, and one that
goes on in one direction reaches every week or day of the calendar. -/
theorem walk_shifts_period {text : String} {width : Nat}
    (member : (text, width) ∈ [("thisweek", 7), ("today", 1)]) {resolver : Resolver}
    {initial : Resolution} (answers : resolver.resolve? (some text) = .ok (some initial)) :
    (∀ (edges : List Edge) (last : Resolver), resolver.walk (some text) edges = .ok last →
      last.now.offset = resolver.now.offset ∧
      ((∃ final, last.resolve? (some text) = .ok (some final)) ↔
        InCalendar (initial.days.first.ordinal + width * balance edges)
          (initial.days.last.ordinal + width * balance edges)) ∧
      (∀ final, last.resolve? (some text) = .ok (some final) →
        initial.period.ShiftedBy (width * balance edges) final.period) ∧
      (last.resolve? (some text) = .ok (some initial) ↔ balance edges = 0)) ∧
    ∀ (edge : Edge) (count : Nat),
      InCalendar (initial.days.first.ordinal + width * (count * edge.outward))
        (initial.days.last.ordinal + width * (count * edge.outward)) →
      ∃ last final, resolver.walk (some text) (.replicate count edge) = .ok last ∧
        last.resolve? (some text) = .ok (some final) ∧
        initial.period.ShiftedBy (width * (count * edge.outward)) final.period := by
  obtain ⟨tiling, asks, sameWidth⟩ := exists_tiling member
  rw [← sameWidth resolver.firstDay]
  refine ⟨?_, ?_⟩
  · intro edges last walked
    exact ⟨(asks.movedBy_of_walk walked).offset_eq, asks.exists_answer_of_walk_iff answers walked,
      fun final => asks.shiftedBy_of_walk answers walked, asks.answers_again_iff answers walked⟩
  · intro edge count held
    obtain ⟨last, walked⟩ := asks.exists_walk answers edge count ((asks.heldAt_iff answers _).2 held)
    rw [← balance_replicate] at held ⊢
    obtain ⟨final, answersLast⟩ := (asks.exists_answer_of_walk_iff answers walked).2 held
    exact ⟨last, final, walked, answersLast, asks.shiftedBy_of_walk answers walked answersLast⟩

/-- From Wednesday, January 3, 2024, a walk forward over a week and back over two ends in the week
before, and there is one back over five hundred days. -/
theorem walks_from_january_3_2024 :
    let resolver : Resolver := ⟨.monday, .standard, .atStart ⟨738888, by decide, by decide⟩ none⟩
    let last : Resolver := ⟨.monday, .standard, .atEnd ⟨738885, by decide, by decide⟩ none⟩
    let week : Resolution := ⟨.keyword,
      ⟨⟨738886, by decide, by decide⟩, ⟨738892, by decide, by decide⟩, by decide⟩, none⟩
    let today : Resolution := ⟨.keyword, .single resolver.now.date, none⟩
    (("thisweek", 7) ∈ [("thisweek", 7), ("today", 1)] ∧
      resolver.resolve? (some "thisweek") = .ok (some week) ∧
      resolver.walk (some "thisweek") [.finish, .start, .start] = .ok last ∧
      ∃ final, last.resolve? (some "thisweek") = .ok (some final) ∧
        week.period.ShiftedBy (-7) final.period) ∧
    ("today", 1) ∈ [("thisweek", 7), ("today", 1)] ∧
      resolver.resolve? (some "today") = .ok (some today) ∧
      ∃ far final, resolver.walk (some "today") (.replicate 500 .start) = .ok far ∧
        far.resolve? (some "today") = .ok (some final) ∧
        today.period.ShiftedBy (-500) final.period := by
  let resolver : Resolver := ⟨.monday, .standard, .atStart ⟨738888, by decide, by decide⟩ none⟩
  let next : Resolver := ⟨.monday, .standard, .atStart ⟨738893, by decide, by decide⟩ none⟩
  let back : Resolver := ⟨.monday, .standard, .atEnd ⟨738892, by decide, by decide⟩ none⟩
  let last : Resolver := ⟨.monday, .standard, .atEnd ⟨738885, by decide, by decide⟩ none⟩
  let week : Resolution := ⟨.keyword,
    ⟨⟨738886, by decide, by decide⟩, ⟨738892, by decide, by decide⟩, by decide⟩, none⟩
  let nextWeek : Resolution := ⟨.keyword,
    ⟨⟨738893, by decide, by decide⟩, ⟨738899, by decide, by decide⟩, by decide⟩, none⟩
  let today : Resolution := ⟨.keyword, .single resolver.now.date, none⟩
  have answers : resolver.resolve? (some "thisweek") = .ok (some week) := by decide +kernel
  have answersNext : next.resolve? (some "thisweek") = .ok (some nextWeek) := by decide +kernel
  have answersBack : back.resolve? (some "thisweek") = .ok (some week) := by decide +kernel
  have answersToday : resolver.resolve? (some "today") = .ok (some today) := by decide +kernel
  have walked : resolver.walk (some "thisweek") [.finish, .start, .start] = .ok last := by
    refine (bind_eq_ok_iff _ _ _).2 ⟨next, ?_, (bind_eq_ok_iff _ _ _).2 ⟨back, ?_,
      (bind_eq_ok_iff _ _ _).2 ⟨last, ?_, rfl⟩⟩⟩
    · exact (cross_eq_ok_iff _ _ _ _).2 ⟨week, next.now, answers, by decide +kernel, rfl⟩
    · exact (cross_eq_ok_iff _ _ _ _).2 ⟨nextWeek, back.now, answersNext, by decide +kernel, rfl⟩
    · exact (cross_eq_ok_iff _ _ _ _).2 ⟨week, last.now, answersBack, by decide +kernel, rfl⟩
  have isWeek : ("thisweek", 7) ∈ [("thisweek", 7), ("today", 1)] := by decide
  have isDay : ("today", 1) ∈ [("thisweek", 7), ("today", 1)] := by decide
  obtain ⟨-, answered, shifted, -⟩ := (walk_shifts_period isWeek answers).1 _ last walked
  obtain ⟨final, answersLast⟩ := answered.2 ⟨by decide +kernel, by decide +kernel⟩
  exact ⟨⟨isWeek, answers, walked, final, answersLast, shifted final answersLast⟩, isDay,
    answersToday, (walk_shifts_period isDay answersToday).2 .start 500
      ⟨by decide +kernel, by decide +kernel⟩⟩

end Resolver

/-! ### Walks in a session -/

namespace Session

/-- The steps that move a resolver of a session along a walk. -/
def walkSteps (name : String) (text : Option String) (edges : List Edge) : List Step :=
  edges.flatMap fun edge => [.resolve name text true, .move name edge edge.outward]

variable {session : Session} {name : String} {text : Option String} {resolver : Resolver}
  (kept : session.resolvers.get? name = some resolver)
include kept

/-- Two steps of a session move a resolver over an edge. -/
theorem exists_steps_of_cross {edge : Edge} {next : Resolver}
    (crossed : resolver.cross text edge = .ok next) :
    ∃ resolution asked moved,
      session.step (.resolve name text true) = .ok (asked, .resolution resolution) ∧
      asked.step (.move name edge edge.outward) = .ok (moved, .resolver next) ∧
      moved.resolvers.get? name = some next := by
  obtain ⟨resolution, now, answers, crossing, rfl⟩ :=
    (Resolver.cross_eq_ok_iff _ _ _ _).1 crossed
  have found : find session.resolvers name = .ok resolver := by rw [find, kept]
  let moved : Resolver := { resolver with now := now }
  let asked := { session with periods := session.periods.insert name resolution.period }
  refine ⟨resolution, asked, { asked with resolvers := session.resolvers.insert name moved },
    ?_, ?_, Table.get?_insert_self _ _ _⟩
  · rw [step, found]
    dsimp only [bind, Except.bind]
    rw [(Resolver.resolve_eq_ok_iff _ _ _).2 answers]
    rfl
  · have asked : find (session.periods.insert name resolution.period) name =
        .ok resolution.period := by
      rw [find, Table.get?_insert_self]
    rw [step, found, asked]
    dsimp only [bind, Except.bind]
    rw [crossing]
    rfl

/-- After the steps of a walk a session answers with the resolver at the end of the walk. -/
theorem exists_session_of_walk {edges : List Edge} {last : Resolver}
    (walked : resolver.walk text edges = .ok last) :
    ∃ (given : List (Except StepError Answer)) (after : Session),
      after.resolvers.get? name = some last ∧ ∀ rest,
        session.answers (walkSteps name text edges ++ rest) = given ++ after.answers rest := by
  induction edges generalizing session resolver with
  | nil =>
    obtain rfl : resolver = last := Except.ok.inj walked
    exact ⟨[], session, kept, fun _ => rfl⟩
  | cons edge others inductionHypothesis =>
    obtain ⟨next, crossed, walkedOn⟩ := (bind_eq_ok_iff _ _ _).1 walked
    obtain ⟨resolution, asked, moved, asks, moves, keptNext⟩ := exists_steps_of_cross kept crossed
    obtain ⟨given, after, keptLast, goesOn⟩ := inductionHypothesis keptNext walkedOn
    refine ⟨.ok (.resolution resolution) :: .ok (.resolver next) :: given, after, keptLast, ?_⟩
    intro rest
    change session.answers (.resolve name text true :: .move name edge edge.outward ::
      (walkSteps name text others ++ rest)) = _
    rw [answers, asks]
    dsimp only
    rw [answers, moves]
    dsimp only
    rw [goesOn]
    rfl

end Session

end Almanac
