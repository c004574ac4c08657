import Frontend.Proofs.Lexeme.Written

/-!
# Blanks between lexemes

Where a lexeme stands is lost when only its kind, text and value are kept.  What is left
of a scan can then be computed without places: `Scan.contents` is a recursion on the
pieces that carries the idle bit alone, and `contents_all` says that it agrees with
`Scan.all` from every place.

So two scans agree up to places if their pieces do after a common beginning
(`contents_append_congr`), and it remains to see what blanks do to the idle bit.  A
blank other than the line feed leaves it as it is.  A line feed sets it, and while it is
set all blanks are passed over.  Hence blanks without a line feed can stand anywhere,
and any blanks can stand where the bit is set already or where a line feed follows that
sets it.
-/

namespace Frontend

/-- What a lexeme is, wherever it stands. -/
def Lexeme.content (lexeme : Lexeme) : Kind × String × Value :=
  (lexeme.kind, lexeme.text, lexeme.value)

/-- Why there is no result, wherever that shows. -/
def Failure.cause : Failure → Problem ⊕ Fault
  | .diagnostic ⟨problem, _⟩ => .inl problem
  | .fault reason => .inr reason

/-- An outcome without spans: `forget` drops them from a result, a failure is reduced to
its cause. -/
def upToSpans {α β : Type} (forget : α → β) (outcome : Except Failure α) :
    Except (Problem ⊕ Fault) β :=
  (outcome.map forget).mapError Failure.cause

namespace Scan

open Source (Place)

/-- The contents of the lexemes of pieces, or the cause why they cannot be read. -/
def contents (idle : Bool) :
    List (List Char) → Except (Problem ⊕ Fault) (List (Kind × String × Value))
  | [] => .ok []
  | piece :: rest =>
    match Reading.of piece with
    | .lexeme kind value =>
      (contents (kind = .lineBreak) rest).map ((kind, String.ofList piece, value) :: ·)
    | .lineBreak =>
      if idle then contents true rest
      else (contents true rest).map ((.lineBreak, String.ofList piece, .absent) :: ·)
    | .space => contents idle rest
    | .problem problem => .error (.inl problem)
    | .fault fault => .error (.inr fault)

private theorem upToSpans_outcome_cons (lexeme : Lexeme) (result : Result) :
    upToSpans (List.map Lexeme.content) (result.cons lexeme).outcome =
      (upToSpans (List.map Lexeme.content) result.outcome).map (lexeme.content :: ·) := by
  unfold Result.outcome Result.cons
  cases result.failure with
  | none => rfl
  | some failure => rfl

/-- **Scanning without places** gives what is left of scanning from any place. -/
theorem contents_all (idle : Bool) (place : Place) (segments : List (List Char)) :
    upToSpans (List.map Lexeme.content) (all idle place segments).outcome =
      contents idle segments := by
  induction segments generalizing idle place with
  | nil => rfl
  | cons piece rest ih =>
      rw [all, step, contents]
      cases Reading.of piece with
      | lexeme kind value =>
          show upToSpans _ (Result.cons _ (all (kind = .lineBreak) _ rest)).outcome = _
          rw [upToSpans_outcome_cons, ih]
          rfl
      | lineBreak =>
          cases idle with
          | true => exact ih true _
          | false =>
              show upToSpans _ (Result.cons _ (all true _ rest)).outcome = _
              rw [upToSpans_outcome_cons, ih]
              rfl
      | space => exact ih idle _
      | problem problem => rfl
      | fault fault => rfl

theorem upToSpans_lex (source : String) :
    upToSpans (List.map Lexeme.content) (lex source) = contents true (pieces source.toList) :=
  contents_all true Place.start _

/-- What follows a common beginning may be replaced by what is read alike. -/
theorem contents_append_congr {segments segments' : List (List Char)}
    (hSame : ∀ idle, contents idle segments = contents idle segments') (idle : Bool)
    (earlier : List (List Char)) :
    contents idle (earlier ++ segments) = contents idle (earlier ++ segments') := by
  induction earlier generalizing idle with
  | nil => exact hSame idle
  | cons piece earlier ih => simp only [List.cons_append, contents, ih]

/-! ## Blanks as pieces -/

private theorem isMark_of_mem_blanks {c : Char} (hBlank : c ∈ Kind.blanks) : IsMark c := by
  have hAll : Kind.blanks.all (fun c => !c.isAlpha && !c.isDigit) = true := rfl
  simpa [IsMark] using List.all_eq_true.1 hAll c hBlank

/-- Every blank is a piece of its own. -/
private theorem pieces_blanks {blanks : List Char} (hBlanks : ∀ c ∈ blanks, c ∈ Kind.blanks)
    (rest : List Char) : pieces (blanks ++ rest) = blanks.map ([·]) ++ pieces rest := by
  induction blanks with
  | nil => rfl
  | cons c blanks ih =>
      obtain ⟨hBlank, hBlanks⟩ := List.forall_mem_cons.1 hBlanks
      rw [List.cons_append, pieces_mark (isMark_of_mem_blanks hBlank), ih hBlanks]
      rfl

/-- Texts that do not run into each other are cut where they meet, also when blanks come
between. -/
theorem pieces_append_blanks {before blanks after : List Char}
    (hBlanks : ∀ c ∈ blanks, c ∈ Kind.blanks)
    (hApart : ∀ c ∈ before.getLast?, ∀ d ∈ after.head?, joins c d = false) :
    pieces (before ++ blanks ++ after) = pieces before ++ (blanks.map ([·]) ++ pieces after) := by
  have hBorder : ∀ c ∈ before.getLast?, ∀ d ∈ (blanks ++ after).head?, joins c d = false := by
    cases blanks with
    | nil => exact hApart
    | cons blank blanks =>
        rintro c _ d ⟨⟩
        exact joins_mark_right (isMark_of_mem_blanks (hBlanks blank List.mem_cons_self)) c
  rw [← pieces_blanks hBlanks, List.append_assoc]
  exact List.splitBy_append hBorder

/-! ## Blanks and the idle bit -/

/-- A blank other than the line feed is passed over. -/
private theorem contents_space {c : Char} (hBlank : c ∈ Kind.blanks) (hFeed : c ≠ '\n')
    (idle : Bool)
    (segments : List (List Char)) : contents idle ([c] :: segments) = contents idle segments := by
  have hMark := isMark_of_mem_blanks hBlank
  rw [contents, Reading.of_mark hMark.1 hMark.2, Reading.ofMark, if_neg hFeed, if_pos hBlank]

private theorem contents_feed_idle (segments : List (List Char)) :
    contents true (['\n'] :: segments) = contents true segments := rfl

/-- After a line feed only what an idle scan makes of the rest matters. -/
theorem contents_feed_congr {segments segments' : List (List Char)}
    (hSame : contents true segments = contents true segments') (idle : Bool) :
    contents idle (['\n'] :: segments) = contents idle (['\n'] :: segments') := by
  cases idle with
  | true => exact hSame
  | false =>
      show (contents true segments).map _ = (contents true segments').map _
      rw [hSame]

/-- Blanks without a line feed are passed over. -/
theorem contents_spaces {blanks : List Char} (hBlanks : ∀ c ∈ blanks, c ∈ Kind.blanks ∧ c ≠ '\n')
    (idle : Bool) (segments : List (List Char)) :
    contents idle (blanks.map ([·]) ++ segments) = contents idle segments := by
  induction blanks with
  | nil => rfl
  | cons c blanks ih =>
      obtain ⟨⟨hBlank, hFeed⟩, hBlanks⟩ := List.forall_mem_cons.1 hBlanks
      rw [List.map_cons, List.cons_append, contents_space hBlank hFeed, ih hBlanks]

/-- Where a line feed would be idle, all blanks are passed over. -/
theorem contents_blanks_idle {blanks : List Char} (hBlanks : ∀ c ∈ blanks, c ∈ Kind.blanks)
    (segments : List (List Char)) :
    contents true (blanks.map ([·]) ++ segments) = contents true segments := by
  induction blanks with
  | nil => rfl
  | cons c blanks ih =>
      obtain ⟨hBlank, hBlanks⟩ := List.forall_mem_cons.1 hBlanks
      rw [List.map_cons, List.cons_append]
      by_cases hFeed : c = '\n'
      · rw [hFeed, contents_feed_idle, ih hBlanks]
      · rw [contents_space hBlank hFeed, ih hBlanks]

/-- Before a line feed all blanks are passed over: if one of them is a line feed, it
takes the place of the one that follows. -/
theorem contents_blanks_feed {blanks : List Char} (hBlanks : ∀ c ∈ blanks, c ∈ Kind.blanks)
    (idle : Bool) (segments : List (List Char)) :
    contents idle (blanks.map ([·]) ++ ['\n'] :: segments) =
      contents idle (['\n'] :: segments) := by
  induction blanks with
  | nil => rfl
  | cons c blanks ih =>
      obtain ⟨hBlank, hBlanks⟩ := List.forall_mem_cons.1 hBlanks
      rw [List.map_cons, List.cons_append]
      by_cases hFeed : c = '\n'
      · rw [hFeed]
        apply contents_feed_congr
        rw [contents_blanks_idle hBlanks, contents_feed_idle]
      · rw [contents_space hBlank hFeed, ih hBlanks]

end Scan

end Frontend
