import CallBook.Text.Blank
import CallBook.Text.Lines
/-!
# Laws of lines and words

A text without a line feed is one line, and a line feed ends the line before it: with these two
the lines of a text are read off from left to right (`lines_append`, `lines_of_not_mem`).  Words
are read off in the same way: a word and a blank behind it give the word (`words_word_append`),
and blanks in front of a word give nothing (`words_blank_append`).  A text between blanks is cut
out of them (`trim_append`).
-/

namespace CallBook.Text

/-! ## 1. Lines -/

theorem splitLine_append : ∀ {line : List Char} (rest : List Char), '\n' ∉ line →
    splitLine (line ++ '\n' :: rest) = (line, some rest)
  | [], _, _ => by simp [splitLine]
  | c :: line, rest, h => by
    have hc : c ≠ '\n' := fun e => h (e ▸ List.mem_cons_self)
    have ih := splitLine_append rest fun hmem => h (List.mem_cons_of_mem c hmem)
    rw [List.cons_append, splitLine, if_neg hc, ih]

theorem splitLine_of_not_mem : ∀ {line : List Char}, '\n' ∉ line → splitLine line = (line, none)
  | [], _ => rfl
  | c :: line, h => by
    have hc : c ≠ '\n' := fun e => h (e ▸ List.mem_cons_self)
    rw [splitLine, if_neg hc, splitLine_of_not_mem fun hmem => h (List.mem_cons_of_mem c hmem)]

theorem lines_append {line : List Char} (rest : List Char) (h : '\n' ∉ line) :
    lines (line ++ '\n' :: rest) = dropReturn line :: lines rest := by
  rw [lines]
  split
  · rename_i hsplit
    rw [splitLine_append rest h] at hsplit
    cases hsplit
    rfl
  · rename_i hsplit
    rw [splitLine_append rest h] at hsplit
    cases hsplit

theorem lines_of_not_mem {line : List Char} (h : '\n' ∉ line) :
    lines line = if line.isEmpty then [] else [line] := by
  rw [lines]
  split
  · rename_i hsplit
    rw [splitLine_of_not_mem h] at hsplit
    cases hsplit
  · rename_i hsplit
    rw [splitLine_of_not_mem h] at hsplit
    cases hsplit
    rfl

/-! ## 2. Ends of lines -/

theorem dropEndWhile_append_of_pos {p : Char → Bool} (cs : List Char) {tail : List Char}
    (h : ∀ c ∈ tail, p c = true) : dropEndWhile p (cs ++ tail) = dropEndWhile p cs := by
  rw [dropEndWhile, List.reverse_append, List.dropWhile_append_of_pos fun c hc =>
    h c (List.mem_reverse.1 hc), dropEndWhile]

theorem dropEndWhile_of_getLast? {p : Char → Bool} {cs : List Char}
    (h : ∀ c ∈ cs.getLast?, p c = false) : dropEndWhile p cs = cs := by
  rw [dropEndWhile]
  cases hrev : cs.reverse with
  | nil => simp [List.reverse_eq_nil_iff.1 hrev]
  | cons c front =>
    have hlast : cs.getLast? = some c := by rw [List.getLast?_eq_head?_reverse, hrev]; rfl
    rw [List.dropWhile_cons_of_neg (by simp [h c hlast]), ← hrev, List.reverse_reverse]

/-- What has none of some characters at its ends is what is left when these are dropped there. -/
theorem dropEndWhile_dropWhile_append {p : Char → Bool} {core right : List Char}
    (hfront : ∀ c ∈ core.head?, p c = false) (hback : ∀ c ∈ core.getLast?, p c = false)
    (hright : ∀ c ∈ right, p c = true) : dropEndWhile p ((core ++ right).dropWhile p) = core := by
  cases core with
  | nil =>
    have hnil : (right ++ []).dropWhile p = [].dropWhile p := List.dropWhile_append_of_pos hright
    rw [List.append_nil] at hnil
    rw [List.nil_append, hnil]
    rfl
  | cons c core =>
    rw [List.cons_append, List.dropWhile_cons_of_neg (by simp [hfront c rfl]), ← List.cons_append,
      dropEndWhile_append_of_pos _ hright, dropEndWhile_of_getLast? hback]

/-- What stands between blanks is what is left of a text when it is trimmed. -/
theorem trim_append {left core right : List Char} (hleft : ∀ c ∈ left, isBlank c = true)
    (hfront : ∀ c ∈ core.head?, isBlank c = false) (hback : ∀ c ∈ core.getLast?, isBlank c = false)
    (hright : ∀ c ∈ right, isBlank c = true) : trim (left ++ core ++ right) = core := by
  rw [trim, List.append_assoc, List.dropWhile_append_of_pos hleft,
    dropEndWhile_dropWhile_append hfront hback hright]

/-- One carriage return fewer at the end makes no difference once all of them go. -/
theorem dropEndWhile_dropReturn (line : List Char) :
    dropEndWhile (· = '\r') (dropReturn line) = dropEndWhile (· = '\r') line := by
  unfold dropReturn
  split
  · rename_i front hfront
    have hline : line = front.reverse ++ ['\r'] := by
      rw [← List.reverse_reverse line, hfront, List.reverse_cons]
    rw [hline, dropEndWhile_append_of_pos _ (by simp)]
  · rfl

/-- What is dropped at the end is blank, so a blank line stays one and no other becomes one. -/
theorem allBlank_dropEndWhile_return (line : List Char) :
    allBlank (dropEndWhile (· = '\r') line) = allBlank line := by
  have hsplit : line.reverse.takeWhile (· = '\r') ++ line.reverse.dropWhile (· = '\r')
      = line.reverse := List.takeWhile_append_dropWhile
  have hall : (line.reverse.takeWhile (· = '\r')).all isBlank = true := by
    rw [List.all_eq_true]
    intro c hc
    have hreturn := List.all_eq_true.1 List.all_takeWhile c hc
    rw [of_decide_eq_true hreturn]
    decide
  rw [allBlank, allBlank, dropEndWhile, List.all_reverse, ← List.all_reverse (l := line), ← hsplit,
    List.all_append, hall, Bool.true_and, hsplit]

/-! ## 3. Words -/

theorem words_of_dropWhile_nil {cs : List Char} (h : cs.dropWhile isBlank = []) :
    words cs = [] := by
  rw [words]
  split
  · rfl
  · rename_i hdrop
    rw [h] at hdrop
    cases hdrop

theorem words_of_dropWhile_cons {cs rest : List Char} {c : Char}
    (h : cs.dropWhile isBlank = c :: rest) :
    words cs =
      (c :: rest).takeWhile (!isBlank ·) :: words ((c :: rest).dropWhile (!isBlank ·)) := by
  rw [words]
  split
  · rename_i hdrop
    rw [h] at hdrop
    cases hdrop
  · rename_i hdrop
    rw [h] at hdrop
    cases hdrop
    rfl

theorem words_blank_append {gap : List Char} (hgap : ∀ c ∈ gap, isBlank c = true)
    (rest : List Char) : words (gap ++ rest) = words rest := by
  have hdrop : (gap ++ rest).dropWhile isBlank = rest.dropWhile isBlank :=
    List.dropWhile_append_of_pos hgap
  cases h : rest.dropWhile isBlank with
  | nil => rw [words_of_dropWhile_nil (hdrop.trans h), words_of_dropWhile_nil h]
  | cons c cs => rw [words_of_dropWhile_cons (hdrop.trans h), words_of_dropWhile_cons h]

/-- **A word ends at a blank or with the text.** -/
theorem words_word_append {word rest : List Char} (hne : word ≠ [])
    (hword : ∀ c ∈ word, isBlank c = false) (hrest : ∀ c ∈ rest.head?, isBlank c = true) :
    words (word ++ rest) = word :: words rest := by
  obtain ⟨c, cs, rfl⟩ := List.exists_cons_of_ne_nil hne
  have hpos : ∀ d ∈ c :: cs, (!isBlank d) = true := fun d hd => by rw [hword d hd]; rfl
  have hdrop : (c :: cs ++ rest).dropWhile isBlank = c :: (cs ++ rest) := by
    rw [List.cons_append, List.dropWhile_cons_of_neg (by simp [hword c List.mem_cons_self])]
  have htake : rest.takeWhile (!isBlank ·) = [] ∧ rest.dropWhile (!isBlank ·) = rest := by
    cases rest with
    | nil => simp
    | cons d rest => simp [hrest d rfl]
  rw [words_of_dropWhile_cons hdrop, ← List.cons_append, List.takeWhile_append_of_pos hpos,
    List.dropWhile_append_of_pos hpos, htake.1, htake.2, List.append_nil]

end CallBook.Text
