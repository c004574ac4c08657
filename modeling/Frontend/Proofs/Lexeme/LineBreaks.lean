import Frontend.Proofs.Lexeme.Tiling

/-!
# Line breaks

Of the line feeds behind a lexeme the first becomes a line break and the others leave no
trace; those before the first lexeme leave none either.  Whether a line feed is the
first is known to the scan from one bit, which says of a line feed that it would be
idle.

`Trail` is what the scan guarantees from an offset on, in terms of the source: a line
feed is passed over only if it is idle, it becomes a line break only if it is not, and
the bit is set by what came last.  It is kept by every piece (`exists_trail_of_all`),
and can be entered behind any lexeme (`Trail.behind`).  What the line breaks say about
the source is read off from it (`lineBreaks_collapse`).
-/

namespace Frontend

open Source (Place)
open Scan (Cut Keeps cuts)

/-! ## Line feeds between offsets -/

/-- A line feed stands at an offset from `start` on and before `stop`. -/
def FeedWithin (text : List Char) (start stop : Nat) : Prop :=
  ∃ offset, start ≤ offset ∧ offset < stop ∧ text[offset]? = some '\n'

/-- The first line feed from `start` on stands at an offset. -/
structure IsFirstFeed (text : List Char) (start offset : Nat) : Prop where
  from_start : start ≤ offset
  feed : text[offset]? = some '\n'
  first : ¬FeedWithin text start offset

theorem FeedWithin.split {text : List Char} {start stop : Nat} (hFeed : FeedWithin text start stop)
    (middle : Nat) : FeedWithin text start middle ∨ FeedWithin text middle stop := by
  obtain ⟨offset, hFrom, hTo, hChar⟩ := hFeed
  rcases Nat.lt_or_ge offset middle with hLeft | hRight
  · exact Or.inl ⟨offset, hFrom, hLeft, hChar⟩
  · exact Or.inr ⟨offset, hRight, hTo, hChar⟩

/-- Nothing stands between an offset and itself. -/
private theorem not_feedWithin_self (text : List Char) (offset : Nat) :
    ¬FeedWithin text offset offset := by
  rintro ⟨_, hFrom, hTo, _⟩
  omega

private theorem feed_mem_of_feedWithin {before piece after : List Char}
    (hFeed : FeedWithin (before ++ (piece ++ after)) before.length (before ++ piece).length) :
    '\n' ∈ piece := by
  obtain ⟨offset, hFrom, hTo, hChar⟩ := hFeed
  rw [List.length_append] at hTo
  rw [List.getElem?_append_right hFrom, List.getElem?_append_left (by omega)] at hChar
  exact List.mem_of_getElem? hChar

/-! ## Lexemes behind an offset -/

/-- The offset just past a lexeme. -/
def stopOf (entry : Nat × Lexeme) : Nat := entry.1 + entry.2.text.length

/-- What lies at an offset is a line break. -/
def IsBreak (entry : Nat × Lexeme) : Prop := entry.2.kind = .lineBreak

instance (entry : Nat × Lexeme) : Decidable (IsBreak entry) :=
  inferInstanceAs (Decidable (entry.2.kind = .lineBreak))

namespace Scan

/-- Lexemes lie in a text from an offset on, and no line feed is passed over there
except while line feeds are idle. -/
inductive Trail (text : List Char) : Bool → Nat → List (Nat × Lexeme) → Prop where
  | ended {idle : Bool} {start : Nat} (hSkips : FeedWithin text start text.length → idle = true) :
      Trail text idle start []
  | lexeme {idle : Bool} {start : Nat} {entry : Nat × Lexeme} {rest : List (Nat × Lexeme)}
      (hFrom : start ≤ entry.1) (hNonempty : entry.1 < stopOf entry)
      (hSkips : FeedWithin text start entry.1 → idle = true)
      (hBreaks : IsBreak entry → idle = false ∧ text[entry.1]? = some '\n')
      (hRest : Trail text (IsBreak entry) (stopOf entry) rest) :
      Trail text idle start (entry :: rest)

namespace Trail

variable {text : List Char} {idle : Bool} {start : Nat} {entry : Nat × Lexeme}
  {placed earlier breaks later : List (Nat × Lexeme)}

/-- More may be passed over before, if no line feed in it counts. -/
theorem from_earlier {before : Nat} (hTrail : Trail text idle start placed)
    (hBefore : before ≤ start)
    (hSkips : FeedWithin text before start → idle = true) : Trail text idle before placed := by
  cases hTrail with
  | ended hRest => exact .ended fun hFeed => (hFeed.split start).elim hSkips hRest
  | lexeme hFrom hNonempty hGap hBreaks hRest =>
      exact .lexeme (Nat.le_trans hBefore hFrom) hNonempty
        (fun hFeed => (hFeed.split start).elim hSkips hGap) hBreaks hRest

/-- Behind each lexeme there is a trail of the lexemes after it. -/
theorem behind (hTrail : Trail text idle start (earlier ++ entry :: later)) :
    Trail text (IsBreak entry) (stopOf entry) later := by
  induction earlier generalizing idle start with
  | nil =>
      cases hTrail with
      | lexeme _ _ _ _ hRest => exact hRest
  | cons first earlier ih =>
      cases hTrail with
      | lexeme _ _ _ _ hRest => exact ih hRest

/-- Every lexeme of a trail begins behind its start. -/
theorem start_le (hTrail : Trail text idle start placed) (hMem : entry ∈ placed) :
    start ≤ entry.1 := by
  induction hTrail with
  | ended => cases hMem
  | lexeme hFrom hNonempty _ _ _ ih =>
      rcases List.mem_cons.1 hMem with rfl | hMem
      · exact hFrom
      · have hLater := ih hMem
        omega

/-- Where line feeds are idle no line break comes first. -/
theorem head_not_break (hTrail : Trail text true start placed) :
    ∀ entry ∈ placed.head?, ¬IsBreak entry := by
  cases hTrail with
  | ended => exact nofun
  | lexeme _ _ _ hBreaks _ =>
      rintro _ ⟨⟩ hBreak
      cases (hBreaks hBreak).1

/-- No two line breaks stand next to each other. -/
theorem isChain (hTrail : Trail text idle start placed) :
    placed.IsChain fun a b => ¬(IsBreak a ∧ IsBreak b) := by
  induction hTrail with
  | ended => exact .nil
  | @lexeme _ _ entry rest _ _ _ _ hRest ih =>
      refine List.isChain_cons.2 ⟨?_, ih⟩
      rintro next hNext ⟨hBreak, hBreak'⟩
      rw [decide_eq_true hBreak] at hRest
      exact hRest.head_not_break next hNext hBreak'

/-- **A line break is the first line feed** behind the lexeme before it, which is no
line break. -/
theorem exists_before_break (hTrail : Trail text true start (earlier ++ entry :: later))
    (hBreak : IsBreak entry) :
    ∃ others a, earlier = others ++ [a] ∧ ¬IsBreak a ∧ IsFirstFeed text (stopOf a) entry.1 := by
  rcases List.eq_nil_or_concat earlier with rfl | ⟨others, a, rfl⟩
  · exact absurd hBreak (hTrail.head_not_break entry rfl)
  · rw [List.concat_eq_append, List.append_assoc, List.singleton_append] at hTrail
    have hBehind := hTrail.behind
    refine ⟨others, a, List.concat_eq_append, ?_⟩
    cases hBehind with
    | lexeme hFrom _ hSkips hBreaks _ =>
        obtain ⟨hIdle, hFeed⟩ := hBreaks hBreak
        refine ⟨of_decide_eq_false hIdle, hFrom, hFeed, fun hSkipped => ?_⟩
        rw [hSkips hSkipped] at hIdle
        cases hIdle

/-- **Between two lexemes** there is a line break exactly if there is a line feed. -/
theorem breaks_ne_nil_iff (hTrail : Trail text false start (breaks ++ entry :: later))
    (hBreaks : ∀ e ∈ breaks, IsBreak e) : breaks ≠ [] ↔ FeedWithin text start entry.1 := by
  cases breaks with
  | nil =>
      cases hTrail with
      | lexeme _ _ hSkips _ _ =>
          exact ⟨fun hSome => absurd rfl hSome, fun hFeed => nomatch hSkips hFeed⟩
  | cons first breaks =>
      cases hTrail with
      | lexeme hFrom hNonempty _ hKept hRest =>
          have hLater := hRest.start_le (List.mem_append_right breaks List.mem_cons_self)
          obtain ⟨_, hFeed⟩ := hKept (hBreaks first List.mem_cons_self)
          exact ⟨fun _ => ⟨first.1, hFrom, by omega, hFeed⟩, fun _ => List.cons_ne_nil _ _⟩

/-- **Behind the last lexeme** there is a line break exactly if there is a line feed. -/
theorem breaks_ne_nil_iff_of_end (hTrail : Trail text false start breaks)
    (hBreaks : ∀ e ∈ breaks, IsBreak e) : breaks ≠ [] ↔ FeedWithin text start text.length := by
  cases hTrail with
  | ended hSkips => exact ⟨fun hSome => absurd rfl hSome, fun hFeed => nomatch hSkips hFeed⟩
  | @lexeme _ _ first _ hFrom _ _ hKept _ =>
      obtain ⟨_, hFeed⟩ := hKept (hBreaks first List.mem_cons_self)
      have hInside := (List.getElem?_eq_some_iff.1 hFeed).1
      exact ⟨fun _ => ⟨first.1, hFrom, hInside, hFeed⟩, fun _ => List.cons_ne_nil _ _⟩

end Trail

/-! ## The trail of a scan -/

/-- A line feed is passed over only where it is idle. -/
private theorem idle_of_skip {place : Place} {piece : List Char} {idle : Bool}
    (hPiece : IsPiece piece)
    (hStep : step idle place piece = .skip) (hFeed : '\n' ∈ piece) : idle = true := by
  rcases skip_cases hPiece hStep with ⟨_, hIdle⟩ | ⟨c, _, hOther, rfl⟩
  · exact hIdle
  · exact absurd (List.mem_singleton.1 hFeed).symm hOther

/-- A line feed becomes a line break only where it is not idle. -/
private theorem of_yield_lineBreak {place : Place} {piece : List Char} {idle : Bool}
    {lexeme : Lexeme}
    (hPiece : IsPiece piece) (hStep : step idle place piece = .yield lexeme)
    (hBreak : lexeme.kind = .lineBreak) : idle = false ∧ piece = ['\n'] := by
  have hReads := hPiece.reads
  unfold step at hStep
  generalize Reading.of piece = reading at hReads hStep
  cases hReads with
  | lexeme _ hKind =>
      cases hStep
      exact absurd hBreak hKind
  | lineBreak =>
      cases idle with
      | true => cases hStep
      | false => exact ⟨rfl, rfl⟩
  | space | unrecognised | overflow | tooLong => cases hStep

section Pieces

variable {before piece after : List Char} {idle : Bool} {placed : List (Nat × Lexeme)}

/-- A piece that is kept comes first on the trail. -/
private theorem Trail.of_yield {lexeme : Lexeme} (hPiece : IsPiece piece)
    (hStep : step idle (Place.start.pass before) piece = .yield lexeme)
    (hTrail : Trail (before ++ piece ++ after) (lexeme.kind = .lineBreak)
      (before ++ piece).length placed) :
    Trail (before ++ piece ++ after) idle before.length ((before.length, lexeme) :: placed) := by
  have hLexeme := @lexeme?_of_yield ⟨before, piece⟩ idle lexeme hStep
  obtain ⟨hShown, _⟩ := spelling_of_lexeme? hPiece hLexeme
  have hStop : stopOf (before.length, lexeme) = (before ++ piece).length := by
    rw [stopOf, hShown, String.length_ofList, List.length_append]
  refine .lexeme (Nat.le_refl _) ?_ ?_ ?_ ?_
  · have hPositive := List.length_pos_of_ne_nil hPiece.ne_nil
    show before.length < stopOf (before.length, lexeme)
    rw [hStop, List.length_append]
    omega
  · exact fun hFeed => absurd hFeed (not_feedWithin_self _ _)
  · intro hBreak
    obtain ⟨hIdle, hFeed⟩ := of_yield_lineBreak hPiece hStep hBreak
    refine ⟨hIdle, ?_⟩
    show (before ++ piece ++ after)[before.length]? = some '\n'
    rw [List.append_assoc, getElem?_length, hFeed]
    rfl
  · show Trail _ _ (stopOf (before.length, lexeme)) _
    rw [hStop]
    exact hTrail

/-- A piece that is dropped leaves no mark on the trail. -/
private theorem Trail.of_skip (hPiece : IsPiece piece)
    (hStep : step idle (Place.start.pass before) piece = .skip)
    (hTrail : Trail (before ++ piece ++ after) idle (before ++ piece).length placed) :
    Trail (before ++ piece ++ after) idle before.length placed := by
  refine hTrail.from_earlier ?_ fun hFeed => ?_
  · rw [List.length_append]
    omega
  · rw [List.append_assoc] at hFeed
    exact idle_of_skip hPiece hStep (feed_mem_of_feedWithin hFeed)

end Pieces

/-- **Scanning to the end** leaves a trail of the lexemes that are kept. -/
theorem exists_trail_of_all {segments : List (List Char)}
    (hPieces : ∀ piece ∈ segments, IsPiece piece) (idle : Bool) (before : List Char)
    (hEnd : (all idle (Place.start.pass before) segments).failure = none) :
    ∃ kept, Keeps (cuts before segments) kept ∧
      (all idle (Place.start.pass before) segments).lexemes = kept.map Prod.snd ∧
      Trail (before ++ segments.flatten) idle before.length (kept.map placedAt) := by
  induction segments generalizing idle before with
  | nil =>
      refine ⟨[], .nil, rfl, .ended fun hFeed => ?_⟩
      rw [List.flatten_nil, List.append_nil] at hFeed
      exact absurd hFeed (not_feedWithin_self _ _)
  | cons piece rest ih =>
      obtain ⟨hPiece, hRest⟩ := List.forall_mem_cons.1 hPieces
      rw [List.flatten_cons, ← List.append_assoc]
      rw [all] at hEnd ⊢
      cases hStep : step idle (Place.start.pass before) piece with
      | yield lexeme =>
          rw [hStep] at hEnd
          simp only [← Place.pass_append] at hEnd ⊢
          obtain ⟨kept, hKeeps, hLexemes, hTrail⟩ := ih hRest _ (before ++ piece) hEnd
          have hLexeme := @lexeme?_of_yield ⟨before, piece⟩ idle lexeme hStep
          exact ⟨(⟨before, piece⟩, lexeme) :: kept, .keep hLexeme hKeeps,
            congrArg (List.cons lexeme) hLexemes, hTrail.of_yield hPiece hStep⟩
      | skip =>
          rw [hStep] at hEnd
          simp only [← Place.pass_append] at hEnd ⊢
          obtain ⟨kept, hKeeps, hLexemes, hTrail⟩ := ih hRest _ (before ++ piece) hEnd
          exact ⟨kept, .drop (@isBlank_of_skip ⟨before, piece⟩ idle hPiece hStep) hKeeps, hLexemes,
            hTrail.of_skip hPiece hStep⟩
      | fail failure =>
          rw [hStep] at hEnd
          cases hEnd

end Scan

/-! ## The line breaks of a source -/

/-- The line breaks among the lexemes of a text tell where it has line feeds, each
stretch of white space telling it once. -/
structure Collapsed (text : List Char) (placed : List (Nat × Lexeme)) : Prop where
  /-- The first lexeme is no line break. -/
  first : ∀ entry ∈ placed.head?, ¬IsBreak entry
  /-- No two line breaks stand next to each other. -/
  single : placed.IsChain fun a b => ¬(IsBreak a ∧ IsBreak b)
  /-- Between two other lexemes there is a line break exactly if there is a line
  feed. -/
  between : ∀ earlier a breaks b later, placed = earlier ++ a :: (breaks ++ b :: later) →
    ¬IsBreak a → ¬IsBreak b → (∀ entry ∈ breaks, IsBreak entry) →
      (breaks ≠ [] ↔ FeedWithin text (stopOf a) b.1)
  /-- The last lexeme is a line break exactly if there are others and a line feed
  follows the last of them. -/
  last : (∃ entry ∈ placed.getLast?, IsBreak entry) ↔
    ∃ earlier a breaks, placed = earlier ++ a :: breaks ∧ ¬IsBreak a ∧
      (∀ entry ∈ breaks, IsBreak entry) ∧ FeedWithin text (stopOf a) text.length
  /-- A line break is the first line feed behind the lexeme before it. -/
  place : ∀ earlier entry later, placed = earlier ++ entry :: later → IsBreak entry →
    entry.2.span.length = 1 ∧
      ∃ others a, earlier = others ++ [a] ∧ ¬IsBreak a ∧ IsFirstFeed text (stopOf a) entry.1

namespace Scan

variable {text : List Char} {placed : List (Nat × Lexeme)}

private theorem Trail.last_iff (hTrail : Trail text true 0 placed) :
    (∃ entry ∈ placed.getLast?, IsBreak entry) ↔
      ∃ earlier a breaks, placed = earlier ++ a :: breaks ∧ ¬IsBreak a ∧
        (∀ entry ∈ breaks, IsBreak entry) ∧ FeedWithin text (stopOf a) text.length := by
  constructor
  · rintro ⟨entry, hLast, hBreak⟩
    obtain ⟨earlier, rfl⟩ := List.getLast?_eq_some_iff.1 hLast
    obtain ⟨others, a, rfl, hSolid, hFirst⟩ := hTrail.exists_before_break hBreak
    have hInside := (List.getElem?_eq_some_iff.1 hFirst.feed).1
    refine ⟨others, a, [entry], ?_, hSolid, ?_, entry.1, hFirst.from_start, hInside, hFirst.feed⟩
    · rw [List.append_assoc, List.singleton_append]
    · exact fun other hMem => List.mem_singleton.1 hMem ▸ hBreak
  · rintro ⟨earlier, a, breaks, rfl, hSolid, hBreaks, hFeed⟩
    have hBehind := hTrail.behind
    rw [decide_eq_false hSolid] at hBehind
    have hSome := (hBehind.breaks_ne_nil_iff_of_end hBreaks).2 hFeed
    refine ⟨breaks.getLast hSome, ?_, hBreaks _ (List.getLast_mem hSome)⟩
    rw [List.getLast?_append, List.getLast?_cons, List.getLast?_eq_some_getLast hSome]
    rfl

/-- **What a trail says** of the line breaks in it. -/
theorem Trail.collapsed {source : String} (hTrail : Trail source.toList true 0 placed)
    (hTiles : Tiles source placed) : Collapsed source.toList placed := by
  refine ⟨hTrail.head_not_break, hTrail.isChain, ?_, hTrail.last_iff, ?_⟩
  · rintro earlier a breaks b later rfl hSolid _ hBreaks
    have hBehind := hTrail.behind
    rw [decide_eq_false hSolid] at hBehind
    exact hBehind.breaks_ne_nil_iff hBreaks
  · rintro earlier entry later rfl hBreak
    refine ⟨?_, hTrail.exists_before_break hBreak⟩
    have hLies := hTiles.lies entry (List.mem_append_right earlier List.mem_cons_self)
    rw [hLies.length, hLies.spelling.kind_eq_lineBreak_iff.1 hBreak]
    rfl

end Scan

/-- **Line breaks collapse.**  The lexemes of a source lie in it one after the other,
and the line breaks among them tell exactly where there are line feeds between the
others or behind the last of them. -/
theorem lineBreaks_collapse {source : String} {lexemes : List Lexeme}
    (hLex : lex source = .ok lexemes) :
    ∃ placed : List (Nat × Lexeme), placed.map Prod.snd = lexemes ∧ Tiles source placed ∧
      Collapsed source.toList placed := by
  have hAll : (Scan.all true (Place.start.pass []) (pieces source.toList)).outcome = .ok lexemes :=
    hLex
  obtain ⟨hEnd, rfl⟩ := Scan.Result.outcome_eq_ok_iff.1 hAll
  obtain ⟨kept, hKeeps, hLexemes, hTrail⟩ :=
    Scan.exists_trail_of_all (fun _ => isPiece_of_mem) true [] hEnd
  rw [List.nil_append, flatten_pieces] at hTrail
  have hTiles := tiles_of_kept hKeeps
  refine ⟨kept.map placedAt, ?_, hTiles, hTrail.collapsed hTiles⟩
  rw [hLexemes, List.map_map]
  rfl

/-- A source with line feeds before, between and behind its lexemes, among other white
space. -/
def scatteredSource : String := "\n\r\n a \r\n\t\nb c\x0c\n\n"

def scatteredLexemes : List Lexeme :=
  [⟨.identifier, "a", ⟨2, 1, 1⟩, .name "a"⟩, ⟨.lineBreak, "\n", ⟨2, 4, 1⟩, .absent⟩,
    ⟨.identifier, "b", ⟨4, 0, 1⟩, .name "b"⟩, ⟨.identifier, "c", ⟨4, 2, 1⟩, .name "c"⟩,
    ⟨.lineBreak, "\n", ⟨4, 4, 1⟩, .absent⟩]

/-- Two of its six line feeds become line breaks, each behind a carriage return or a
form feed. -/
theorem scatteredLexemes_collapse : lex scatteredSource = .ok scatteredLexemes ∧
    ∃ placed : List (Nat × Lexeme), placed.map Prod.snd = scatteredLexemes ∧
      Tiles scatteredSource placed ∧ Collapsed scatteredSource.toList placed :=
  ⟨rfl, lineBreaks_collapse rfl⟩

end Frontend
