import Frontend.Lexeme.Piece
import Mathlib.Data.List.SplitBy

/-!
# Spelling

What a piece of text can be, and what it means.  A piece is a run of letters, a run of
digits or a single other character (`isPiece_of_mem`).  `Spelling` says which kind and
which value go with which text, rule by rule and without reference to how the text is
read.

`Reads` lists what the reading of a piece can be, with what it says about the piece: a
lexeme is read as it is spelled, and where a piece has no spelling, it is white space or
it is wrong as a whole.  `IsPiece.reads` says that the list is complete.
-/

namespace Frontend

/-! ## Characters -/

/-- No character is both a letter and a digit. -/
theorem isDigit_eq_false_of_isAlpha {c : Char} (hLetter : c.isAlpha = true) :
    c.isDigit = false := by
  rw [Bool.eq_false_iff]
  intro hDigit
  change (decide (c.val ≥ 65 ∧ c.val ≤ 90) || (c.val ≥ 97 && c.val ≤ 122)) = true at hLetter
  change (c.val ≥ 48 && c.val ≤ 57) = true at hDigit
  simp only [Bool.or_eq_true, Bool.and_eq_true, decide_eq_true_eq, ge_iff_le,
    UInt32.le_iff_toNat_le] at hLetter hDigit
  change 48 ≤ c.toNat ∧ c.toNat ≤ 57 at hDigit
  change (65 ≤ c.toNat ∧ c.toNat ≤ 90) ∨ (97 ≤ c.toNat ∧ c.toNat ≤ 122) at hLetter
  omega

private theorem isAlpha_of_joins {a b : Char} (hJoins : joins a b = true)
    (hLetter : a.isAlpha = true) :
    b.isAlpha = true := by
  have hDigit := isDigit_eq_false_of_isAlpha hLetter
  simpa [joins, hLetter, hDigit] using hJoins

theorem isDigit_of_joins {a b : Char} (hJoins : joins a b = true) (hDigit : a.isDigit = true) :
    b.isDigit = true := by
  have hLetter : a.isAlpha = false := by
    rw [Bool.eq_false_iff]
    intro hLetter
    rw [isDigit_eq_false_of_isAlpha hLetter] at hDigit
    cases hDigit
  simpa [joins, hLetter, hDigit] using hJoins

private theorem feed_ne_of_class {c : Char} (hClass : c.isAlpha = true ∨ c.isDigit = true) :
    c ≠ '\n' := by
  rintro rfl
  rcases hClass with hClass | hClass <;> exact absurd hClass (by decide)

/-! ## Pieces -/

/-- A run of letters, a run of digits or a single other character. -/
inductive IsPiece : List Char → Prop where
  | word {text : List Char} (hNonempty : text ≠ []) (hLetters : ∀ c ∈ text, c.isAlpha = true) :
      IsPiece text
  | digits {text : List Char} (hNonempty : text ≠ []) (hDigits : ∀ c ∈ text, c.isDigit = true) :
      IsPiece text
  | mark {c : Char} (hLetter : c.isAlpha = false) (hDigit : c.isDigit = false) : IsPiece [c]

/-- A property that joining hands on holds along a run from its first character. -/
private theorem forall_of_chain {p : Char → Prop} (hJoins : ∀ a b, joins a b = true → p a → p b) :
    ∀ (text : List Char) (c : Char), (c :: text).IsChain (fun a b => joins a b = true) → p c →
      ∀ d ∈ c :: text, p d := by
  intro text
  induction text with
  | nil =>
      intro c _ hFirst d hMem
      rw [List.mem_singleton] at hMem
      rwa [hMem]
  | cons b text ih =>
      intro c hChain hFirst d hMem
      obtain ⟨hHead, hTail⟩ := List.isChain_cons_cons.1 hChain
      rcases List.mem_cons.1 hMem with rfl | hMem
      · exact hFirst
      · exact ih b hTail (hJoins c b hHead hFirst) d hMem

/-- The pieces of a text, put together, are the text. -/
theorem flatten_pieces (text : List Char) : (pieces text).flatten = text :=
  List.flatten_splitBy joins text

/-- **Pieces.**  A text falls into runs of letters, runs of digits and single other
characters. -/
theorem isPiece_of_mem {text piece : List Char} (hMem : piece ∈ pieces text) : IsPiece piece := by
  have hChain := List.isChain_of_mem_splitBy hMem
  have hNonempty := List.ne_nil_of_mem_splitBy hMem
  obtain ⟨c, rest, rfl⟩ := List.exists_cons_of_ne_nil hNonempty
  by_cases hLetter : c.isAlpha = true
  · exact .word hNonempty (forall_of_chain (fun _ _ => isAlpha_of_joins) rest c hChain hLetter)
  by_cases hDigit : c.isDigit = true
  · exact .digits hNonempty (forall_of_chain (fun _ _ => isDigit_of_joins) rest c hChain hDigit)
  -- Nothing joins any other character, so it stands alone.
  cases rest with
  | nil => exact .mark (Bool.eq_false_iff.2 hLetter) (Bool.eq_false_iff.2 hDigit)
  | cons b rest =>
      have hJoins := (List.isChain_cons_cons.1 hChain).1
      simp [joins, hLetter, hDigit] at hJoins

namespace IsPiece

variable {piece : List Char}

theorem ne_nil (hPiece : IsPiece piece) : piece ≠ [] := by
  cases hPiece with
  | word hNonempty | digits hNonempty => exact hNonempty
  | mark => exact List.cons_ne_nil _ _

/-- A piece is a line feed, or it holds none. -/
theorem feed_notMem (hPiece : IsPiece piece) (hFeed : piece ≠ ['\n']) : '\n' ∉ piece := by
  intro hMem
  cases hPiece with
  | word _ hLetters => exact feed_ne_of_class (Or.inl (hLetters _ hMem)) rfl
  | digits _ hDigits => exact feed_ne_of_class (Or.inr (hDigits _ hMem)) rfl
  | mark =>
      rw [List.mem_singleton] at hMem
      exact hFeed (by rw [hMem])

end IsPiece

/-! ## Readings -/

/-- The texts of lexemes, with the kind and the value that each stands for. -/
inductive Spelling : String → Kind → Value → Prop where
  | fn : Spelling "fn" .fn .absent
  | ret : Spelling "return" .ret .absent
  | identifier {text : String} (hNonempty : text ≠ "")
      (hLetters : ∀ c ∈ text.toList, c.isAlpha = true)
      (hFn : text ≠ "fn") (hRet : text ≠ "return") : Spelling text .identifier (.name text)
  | integer {text : String} (hNonempty : text ≠ "") (hDigits : ∀ c ∈ text.toList, c.isDigit = true)
      (hFits : Nat.ofDigitChars 10 text.toList 0 ≤ int64Max) :
      Spelling text .integer (.integer (Nat.ofDigitChars 10 text.toList 0))
  | openParen : Spelling "(" .openParen .absent
  | closeParen : Spelling ")" .closeParen .absent
  | openBrace : Spelling "\x7b" .openBrace .absent
  | closeBrace : Spelling "\x7d" .closeBrace .absent
  | semicolon : Spelling ";" .semicolon .absent
  | comma : Spelling "," .comma .absent
  | lineBreak : Spelling "\n" .lineBreak .absent

/-- A line break is spelled by the line feed, and nothing else is. -/
theorem Spelling.kind_eq_lineBreak_iff {text : String} {kind : Kind} {value : Value}
    (hSpelling : Spelling text kind value) : kind = .lineBreak ↔ text = "\n" := by
  cases hSpelling with
  | lineBreak => exact ⟨fun _ => rfl, fun _ => rfl⟩
  | identifier _ hLetters =>
      refine ⟨nofun, ?_⟩
      rintro rfl
      exact absurd (hLetters '\n' (by decide)) (by decide)
  | integer _ hDigits =>
      refine ⟨nofun, ?_⟩
      rintro rfl
      exact absurd (hDigits '\n' (by decide)) (by decide)
  | _ => decide

/-- The text that a problem with a piece is about. -/
def Problem.raw? : Problem → Option String
  | .unrecognisedToken raw | .integerOverflow raw => some raw
  | _ => none

/-- What the reading of a piece can be. -/
inductive Reads : List Char → Reading → Prop where
  | lexeme {piece : List Char} {kind : Kind} {value : Value}
      (hSpelling : Spelling (String.ofList piece) kind value) (hKind : kind ≠ .lineBreak) :
      Reads piece (.lexeme kind value)
  | lineBreak : Reads ['\n'] .lineBreak
  | space {c : Char} (hBlank : c ∈ Kind.blanks) (hFeed : c ≠ '\n') : Reads [c] .space
  | unrecognised {c : Char} (hLetter : c.isAlpha = false) (hDigit : c.isDigit = false)
      (hBlank : c ∉ Kind.blanks) (hMark : Kind.punctuation.lookup c = none) :
      Reads [c] (.problem (.unrecognisedToken (String.ofList [c])))
  | overflow {piece : List Char} (hDigits : ∀ c ∈ piece, c.isDigit = true)
      (hShort : piece.length ≤ digitLimit) (hLarge : int64Max < Nat.ofDigitChars 10 piece 0) :
      Reads piece (.problem (.integerOverflow (String.ofList piece)))
  | tooLong {piece : List Char} (hDigits : ∀ c ∈ piece, c.isDigit = true)
      (hLong : digitLimit < piece.length) : Reads piece (.fault (.numeralTooLong piece.length))

namespace Reading

theorem of_word {piece : List Char} (hNonempty : piece ≠ [])
    (hLetters : ∀ c ∈ piece, c.isAlpha = true) : of piece = ofWord (String.ofList piece) := by
  obtain ⟨c, rest, rfl⟩ := List.exists_cons_of_ne_nil hNonempty
  rw [of, if_pos (hLetters c List.mem_cons_self)]

theorem of_digits {piece : List Char} (hNonempty : piece ≠ [])
    (hDigits : ∀ c ∈ piece, c.isDigit = true) : of piece = ofDigits piece := by
  obtain ⟨c, rest, rfl⟩ := List.exists_cons_of_ne_nil hNonempty
  have hDigit := hDigits c List.mem_cons_self
  have hLetter : ¬c.isAlpha = true := by
    intro hLetter
    rw [isDigit_eq_false_of_isAlpha hLetter] at hDigit
    cases hDigit
  rw [of, if_neg hLetter, if_pos hDigit]

theorem of_mark {c : Char} (hLetter : c.isAlpha = false) (hDigit : c.isDigit = false) :
    of [c] = ofMark c := by
  rw [of, if_neg (by rw [hLetter]; exact Bool.false_ne_true),
    if_neg (by rw [hDigit]; exact Bool.false_ne_true)]

/-- A run of letters is a keyword or an identifier. -/
private theorem reads_word {piece : List Char} (hNonempty : piece ≠ [])
    (hLetters : ∀ c ∈ piece, c.isAlpha = true) : Reads piece (ofWord (String.ofList piece)) := by
  unfold ofWord
  cases hFound : Kind.keywords.lookup (String.ofList piece) with
  | some kind =>
      obtain ⟨before, after, hSplit, _⟩ := List.lookup_eq_some_iff.1 hFound
      have hListed : (String.ofList piece, kind) ∈ Kind.keywords := by rw [hSplit]; simp
      simp only [Kind.keywords, List.mem_cons, Prod.mk.injEq, List.not_mem_nil, or_false]
        at hListed
      rcases hListed with ⟨hText, rfl⟩ | ⟨hText, rfl⟩
      · exact .lexeme (by rw [hText]; exact .fn) (by decide)
      · exact .lexeme (by rw [hText]; exact .ret) (by decide)
  | none =>
      have hFn : String.ofList piece ≠ "fn" := by
        intro hText
        rw [hText] at hFound
        exact absurd hFound (by decide)
      have hRet : String.ofList piece ≠ "return" := by
        intro hText
        rw [hText] at hFound
        exact absurd hFound (by decide)
      refine .lexeme (.identifier ?_ ?_ hFn hRet) (by decide)
      · simpa using hNonempty
      · simpa using hLetters

/-- A run of digits is measured by its length, then by its value. -/
private theorem reads_digits {piece : List Char} (hNonempty : piece ≠ [])
    (hDigits : ∀ c ∈ piece, c.isDigit = true) : Reads piece (ofDigits piece) := by
  unfold ofDigits
  by_cases hLong : digitLimit < piece.length
  · rw [if_pos hLong]
    exact .tooLong hDigits hLong
  by_cases hLarge : int64Max < Nat.ofDigitChars 10 piece 0
  · rw [if_neg hLong, if_pos hLarge]
    exact .overflow hDigits (Nat.le_of_not_lt hLong) hLarge
  · rw [if_neg hLong, if_neg hLarge]
    have hInteger := @Spelling.integer (String.ofList piece) (by simpa using hNonempty)
      (by simpa using hDigits) (by simpa using hLarge)
    rw [String.toList_ofList] at hInteger
    exact .lexeme hInteger (by decide)

/-- Any other character is looked up. -/
private theorem reads_mark {c : Char} (hLetter : c.isAlpha = false) (hDigit : c.isDigit = false) :
    Reads [c] (ofMark c) := by
  unfold ofMark
  by_cases hFeed : c = '\n'
  · rw [if_pos hFeed, hFeed]
    exact .lineBreak
  by_cases hBlank : c ∈ Kind.blanks
  · rw [if_neg hFeed, if_pos hBlank]
    exact .space hBlank hFeed
  rw [if_neg hFeed, if_neg hBlank]
  cases hFound : Kind.punctuation.lookup c with
  | none => exact .unrecognised hLetter hDigit hBlank hFound
  | some kind =>
      obtain ⟨before, after, hSplit, _⟩ := List.lookup_eq_some_iff.1 hFound
      have hListed : (c, kind) ∈ Kind.punctuation := by rw [hSplit]; simp
      simp only [Kind.punctuation, List.mem_cons, Prod.mk.injEq, List.not_mem_nil, or_false]
        at hListed
      rcases hListed with
        ⟨rfl, rfl⟩ | ⟨rfl, rfl⟩ | ⟨rfl, rfl⟩ | ⟨rfl, rfl⟩ | ⟨rfl, rfl⟩ | ⟨rfl, rfl⟩
      · exact .lexeme .openParen (by decide)
      · exact .lexeme .closeParen (by decide)
      · exact .lexeme .comma (by decide)
      · exact .lexeme .semicolon (by decide)
      · exact .lexeme .openBrace (by decide)
      · exact .lexeme .closeBrace (by decide)

end Reading

/-- **Readings.**  The reading of a piece is one of those listed. -/
theorem IsPiece.reads {piece : List Char} (hPiece : IsPiece piece) :
    Reads piece (Reading.of piece) := by
  cases hPiece with
  | word hNonempty hLetters =>
      rw [Reading.of_word hNonempty hLetters]
      exact Reading.reads_word hNonempty hLetters
  | digits hNonempty hDigits =>
      rw [Reading.of_digits hNonempty hDigits]
      exact Reading.reads_digits hNonempty hDigits
  | mark hLetter hDigit =>
      rw [Reading.of_mark hLetter hDigit]
      exact Reading.reads_mark hLetter hDigit

end Frontend
