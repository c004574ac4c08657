import Frontend.Text.Decimal
import Frontend.Text.Quoted

/-!
# Quoted text is printable

Whatever a text holds, its quotation holds printable characters only
(`printable_quote`).  A character that may stand for itself is printable by definition,
and every escape is put together from visible ASCII characters: the backslash, a letter
and lower-case hexadecimal digits, as many as the escape is wide.  The mark that
encloses the quotation is one of two, and both are visible too.

Messages are put together from quotations, fixed wordings and decimal digits.  The last
two are visible ASCII text, of which `printable_of_visible` disposes.
-/

namespace Frontend.Text

/-- Every character of the text is printable. -/
def Printable (text : List Char) : Prop := ∀ c ∈ text, isPrintable c = true

/-- The visible ASCII characters and the space. -/
def isVisible (c : Char) : Bool := 0x20 ≤ c.toNat && c.toNat ≤ 0x7e

private theorem isPrintable_of_isVisible {c : Char} (hVisible : isVisible c = true) :
    isPrintable c = true := by
  rw [isVisible, Bool.and_eq_true, decide_eq_true_eq, decide_eq_true_eq] at hVisible
  exact isPrintable_of_ascii hVisible.1 hVisible.2

theorem printable_of_visible {text : List Char} (hVisible : text.all isVisible = true) :
    Printable text :=
  fun c hMem => isPrintable_of_isVisible (List.all_eq_true.1 hVisible c hMem)

theorem printable_append {left right : List Char} (hLeft : Printable left)
    (hRight : Printable right) : Printable (left ++ right) :=
  List.forall_mem_append.2 ⟨hLeft, hRight⟩

theorem printable_cons {c : Char} {text : List Char} (hHead : isPrintable c = true)
    (hTail : Printable text) : Printable (c :: text) :=
  List.forall_mem_cons.2 ⟨hHead, hTail⟩

theorem printable_nil : Printable [] := nofun

/-- Printable text stays on one line. -/
theorem Printable.feed_notMem {text : List Char} (hText : Printable text) : '\n' ∉ text :=
  fun hMem => absurd (hText '\n' hMem) (by decide)

/-! ## Digits -/

theorem isPrintable_of_isDigit {c : Char} (hDigit : c.isDigit = true) : isPrintable c = true := by
  rw [Char.isDigit_iff_toNat] at hDigit
  apply isPrintable_of_ascii
  · exact Nat.le_trans (by decide) hDigit.1
  · exact Nat.le_trans hDigit.2 (by decide)

theorem isDigit_of_mem_repr {n : Nat} {c : Char} (hMem : c ∈ n.repr.toList) : c.isDigit = true := by
  rw [Nat.toList_repr] at hMem
  exact Nat.isDigit_of_mem_toDigits (by decide) (by decide) hMem

/-! ## Escapes -/

private theorem isVisible_hexDigit : ∀ n < 16, isVisible (hexDigit n) = true := by decide

private theorem printable_hex (width n : Nat) : Printable (hex width n) := by
  induction width generalizing n with
  | zero => exact printable_nil
  | succ width ih =>
      have hDigit := isPrintable_of_isVisible (isVisible_hexDigit _ (Nat.mod_lt n (by decide)))
      exact printable_append (ih (n / 16)) (printable_cons hDigit printable_nil)

private theorem printable_codeEscape (c : Char) : Printable (codeEscape c) := by
  have hEscape (intro : List Char) (width : Nat) (hIntro : intro.all isVisible = true) :
      Printable (intro ++ hex width c.toNat) :=
    printable_append (printable_of_visible hIntro) (printable_hex width c.toNat)
  unfold codeEscape
  split
  · exact hEscape ['\\', 'x'] 2 (by decide)
  · split
    · exact hEscape ['\\', 'u'] 4 (by decide)
    · exact hEscape ['\\', 'U'] 8 (by decide)

/-- **An escape** is printable, whatever character it stands for. -/
theorem printable_escape {mark : Char} (hMark : isVisible mark = true) (c : Char) :
    Printable (escape mark c) := by
  unfold escape
  split
  case isTrue hEscaped =>
    -- The backslash in front of the enclosing mark or of another backslash.
    have hSelf : isVisible c = true := by
      rcases hEscaped with rfl | rfl
      · exact hMark
      · decide
    exact printable_cons (isPrintable_of_isVisible (by decide))
      (printable_cons (isPrintable_of_isVisible hSelf) printable_nil)
  split
  case isTrue => exact printable_of_visible (by decide)
  split
  case isTrue => exact printable_of_visible (by decide)
  split
  case isTrue => exact printable_of_visible (by decide)
  split
  case isTrue hPrintable => exact printable_cons hPrintable printable_nil
  case isFalse => exact printable_codeEscape c

private theorem isVisible_quotationMark (text : List Char) :
    isVisible (quotationMark text) = true := by
  unfold quotationMark
  split <;> decide

/-- **Quoted text** is printable, whatever the text holds. -/
theorem printable_quote (text : String) : Printable (quote text).toList := by
  have hMark := isVisible_quotationMark text.toList
  have hEnclosing := isPrintable_of_isVisible hMark
  have hBody : Printable (text.toList.flatMap (escape (quotationMark text.toList))) := by
    intro c hMem
    obtain ⟨source, _, hEscape⟩ := List.mem_flatMap.1 hMem
    exact printable_escape hMark source c hEscape
  rw [quote, String.toList_ofList]
  exact printable_cons hEnclosing (printable_append hBody (printable_cons hEnclosing printable_nil))

end Frontend.Text
