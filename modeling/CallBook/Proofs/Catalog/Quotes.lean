import CallBook.Proofs.Catalog.Sheet
/-!
# Quotes in rows

`cut` reads a row with a flag that says whether it is inside quotes, and takes a doubled quote
there in one step.  Seen from outside no flag is needed: a position is inside quotes if an odd
number of quotes stands before it, whatever these quotes stand for.

`rowFields_of_quote_parity` says what the fields are in these words, for every line: the
positions of the line are cut at the spaces outside quotes; every other character but the quote
is kept; and of a run of quotes half are kept, less one quote if it begins outside.

The induction is on the line run by run.  A run is the least part at whose ends the flag and the
number of quotes agree (`cut_run`); within a run the flag is one step ahead.
-/

namespace CallBook.Catalog.Tabular

/-! ## 1. Positions -/

/-- Is the number of quotes odd? -/
def oddQuotes (cs : List Char) : Bool := cs.count '"' % 2 = 1

/-- Does an odd number of quotes stand before the position? -/
def isInside (text : List Char) (i : Nat) : Bool := oddQuotes (text.take i)

/-- Is there a space at the position, and is it outside quotes? -/
def separates (text : List Char) (i : Nat) : Bool := text[i]? = some ' ' && !isInside text i

/-- Is the position the first, or does it follow another character than a quote? -/
def beginsRun (text : List Char) (i : Nat) : Bool := i = 0 || text[i - 1]? ≠ some '"'

/-- How many quotes stand in a row from the position on. -/
def runLength (text : List Char) (i : Nat) : Nat := ((text.drop i).takeWhile (· = '"')).length

/-- How many quotes a run of `k` leaves in its field: half of them, but one that begins outside
quotes loses its first quote before. -/
def keptQuotes (inside : Bool) (k : Nat) : Nat := if inside then k / 2 else (k - 1) / 2

/-- What the character at a position leaves in its field.  The first quote of a run stands for
all of them. -/
def contribution (text : List Char) (i : Nat) : List Char :=
  match text[i]? with
  | none => []
  | some c =>
    if c ≠ '"' then [c]
    else if beginsRun text i then
      List.replicate (keptQuotes (isInside text i) (runLength text i)) '"'
    else []

/-- The fields that the positions from `i` on make up. -/
def fieldsFrom (text : List Char) (i : Nat) : List (List Char) :=
  ((List.range' i (text.length - i)).splitOnP (separates text)).map
    (List.flatMap (contribution text))

section Steps

variable {text : List Char} {i : Nat}

theorem fieldsFrom_length (text : List Char) : fieldsFrom text text.length = [[]] := by
  rw [fieldsFrom, Nat.sub_self, List.range'_zero, List.splitOnP_nil]
  rfl

/-- The positions that are left are one and those behind it. -/
theorem range'_left (h : i < text.length) :
    List.range' i (text.length - i) = i :: List.range' (i + 1) (text.length - (i + 1)) := by
  have hleft : text.length - i = text.length - (i + 1) + 1 := by omega
  rw [hleft, List.range'_succ]

theorem fieldsFrom_separates (h : i < text.length) (hsep : separates text i = true) :
    fieldsFrom text i = [] :: fieldsFrom text (i + 1) := by
  rw [fieldsFrom, range'_left h, List.splitOnP_cons_eq_if_modifyHead, if_pos hsep]
  rfl

theorem fieldsFrom_keeps (h : i < text.length) (hsep : separates text i = false) :
    fieldsFrom text i = (fieldsFrom text (i + 1)).modifyHead (contribution text i ++ ·) := by
  rw [fieldsFrom, range'_left h, List.splitOnP_cons_eq_if_modifyHead,
    if_neg (Bool.eq_false_iff.1 hsep), fieldsFrom]
  cases (List.range' (i + 1) (text.length - (i + 1))).splitOnP (separates text) with
  | nil => rfl
  | cons field fields => simp

/-- Several positions none of which separates. -/
theorem fieldsFrom_keeps_all (n : Nat) (h : i + n ≤ text.length)
    (hsep : ∀ j, i ≤ j → j < i + n → separates text j = false) :
    fieldsFrom text i =
      (fieldsFrom text (i + n)).modifyHead
        (((List.range' i n).flatMap (contribution text)) ++ ·) := by
  induction n generalizing i with
  | zero => exact (congrFun List.modifyHead_id (fieldsFrom text i)).symm
  | succ n ih =>
    have hnext := ih (i := i + 1) (by omega) fun j hj hlt => hsep j (by omega) (by omega)
    have hadd : i + 1 + n = i + (n + 1) := by omega
    rw [fieldsFrom_keeps (by omega) (hsep i (Nat.le_refl i) (by omega)), hnext, hadd,
      List.modifyHead_modifyHead, List.range'_succ, List.flatMap_cons]
    congr 1
    funext field
    simp

end Steps

/-! ## 2. Runs are read as a whole -/

theorem cut_run_inside {rest : List Char} (h : rest.head? ≠ some '"') : ∀ k : Nat,
    cut true (List.replicate k '"' ++ rest) =
      (List.replicate (k / 2) '"' ++ (cut (k % 2 = 0) rest).1, (cut (k % 2 = 0) rest).2)
  | 0 => rfl
  | 1 => cut_close h
  | k + 2 => by
    have hhalf : (k + 2) / 2 = k / 2 + 1 := by omega
    have hparity : (k + 2) % 2 = k % 2 := by omega
    rw [List.replicate_succ, List.replicate_succ, List.cons_append, List.cons_append, cut,
      cut_run_inside h k, hhalf, hparity, List.replicate_succ]
    rfl

/-- A run of quotes leaves what it leaves, and switches the flag once for each quote. -/
theorem cut_run {rest : List Char} (h : rest.head? ≠ some '"') (inside : Bool) (k : Nat) :
    cut inside (List.replicate k '"' ++ rest) =
      (List.replicate (keptQuotes inside k) '"' ++ (cut (inside ^^ (k % 2 = 1)) rest).1,
        (cut (inside ^^ (k % 2 = 1)) rest).2) := by
  cases inside with
  | true =>
    have hflag : (true ^^ decide (k % 2 = 1)) = decide (k % 2 = 0) := by
      rcases Nat.mod_two_eq_zero_or_one k with hk | hk <;> simp [hk]
    rw [cut_run_inside h, hflag]
    rfl
  | false =>
    cases k with
    | zero => rfl
    | succ k =>
      have hflag : (false ^^ decide ((k + 1) % 2 = 1)) = decide (k % 2 = 0) := by
        rw [Bool.false_xor, decide_eq_decide]
        omega
      rw [List.replicate_succ, List.cons_append, cut_open, cut_run_inside h, hflag]
      rfl

theorem cut_keeps {c : Char} (hquote : c ≠ '"') {inside : Bool} (h : inside = true ∨ c ≠ ' ')
    (cs : List Char) :
    cut inside (c :: cs) = (c :: (cut inside cs).1, (cut inside cs).2) := by
  cases inside with
  | true => exact cut_inside hquote cs
  | false => exact cut_plain hquote (h.resolve_left Bool.false_ne_true) cs

/-! ## 3. The flag is the parity -/

/-- A run of quotes at the front of a text, which may be empty, and what follows it. -/
theorem exists_run (cs : List Char) :
    ∃ k rest, cs = List.replicate k '"' ++ rest ∧ rest.head? ≠ some '"' := by
  refine ⟨(cs.takeWhile (· = '"')).length, cs.dropWhile (· = '"'), ?_, fun hhead => ?_⟩
  · have hrun : cs.takeWhile (· = '"') = List.replicate (cs.takeWhile (· = '"')).length '"' :=
      List.eq_replicate_iff.2 ⟨rfl, fun c hc => by
        simpa using List.all_eq_true.1 List.all_takeWhile c hc⟩
    rw [← hrun, List.takeWhile_append_dropWhile]
  · have hnot := List.head?_dropWhile_not (fun c : Char => decide (c = '"')) cs
    rw [hhead] at hnot
    exact absurd hnot (by decide)

/-- What holds of nothing, and in front of a run or another character if it holds of what follows,
holds of every text.  `before` is what was read. -/
theorem runs_induction {motive : List Char → List Char → Prop} (nil : ∀ before, motive before [])
    (char : ∀ before c rest, c ≠ '"' → motive (before ++ [c]) rest → motive before (c :: rest))
    (run : ∀ before k rest, rest.head? ≠ some '"' →
      motive (before ++ List.replicate (k + 1) '"') rest →
        motive before (List.replicate (k + 1) '"' ++ rest))
    (before cs : List Char) : motive before cs := by
  induction hn : cs.length using Nat.strongRecOn generalizing before cs with
  | ind n ih =>
    obtain ⟨k, rest, rfl, hrest⟩ := exists_run cs
    have hlength : k + rest.length = n := by simpa using hn
    cases k with
    | succ k => exact run before k rest hrest (ih rest.length (by omega) _ rest rfl)
    | zero =>
      cases rest with
      | nil => exact nil before
      | cons c rest =>
        have hc : c ≠ '"' := fun h => hrest (h ▸ rfl)
        rw [List.length_cons] at hlength
        exact char before c rest hc (ih rest.length (by omega) _ rest rfl)

theorem oddQuotes_append_replicate (cs : List Char) (k : Nat) :
    oddQuotes (cs ++ List.replicate k '"') = (oddQuotes cs ^^ (k % 2 = 1)) := by
  rw [oddQuotes, oddQuotes, List.count_append, List.count_replicate_self]
  rcases Nat.mod_two_eq_zero_or_one k with hk | hk <;>
    rcases Nat.mod_two_eq_zero_or_one (cs.count '"') with hc | hc <;>
    simp [Nat.add_mod, hk, hc]

theorem oddQuotes_append_char {c : Char} (h : c ≠ '"') (cs : List Char) :
    oddQuotes (cs ++ [c]) = oddQuotes cs := by
  rw [oddQuotes, List.count_append, List.count_singleton]
  simp [h, oddQuotes]

section Positions

variable {before rest : List Char} {c : Char}

theorem isInside_append (before cs : List Char) :
    isInside (before ++ cs) before.length = oddQuotes before := by
  rw [isInside, List.take_left]

theorem separates_append_cons (before : List Char) (c : Char) (rest : List Char) :
    separates (before ++ c :: rest) before.length = (c = ' ' && !oddQuotes before) := by
  rw [separates, isInside_append]
  simp

theorem contribution_char (h : c ≠ '"') (before rest : List Char) :
    contribution (before ++ c :: rest) before.length = [c] := by
  simp [contribution, h]

/-- Every position of a run is that of a quote. -/
theorem getElem?_run {k j : Nat} (hj : j < k) (before rest : List Char) :
    (before ++ (List.replicate k '"' ++ rest))[before.length + j]? = some '"' := by
  rw [List.getElem?_append_right (Nat.le_add_right _ _), Nat.add_sub_cancel_left,
    List.getElem?_append_left (by simpa using hj), List.getElem?_replicate_of_lt hj]

/-- The first quote of a run stands for all of them. -/
theorem contribution_run_first (k : Nat) (hbefore : before.getLast? ≠ some '"')
    (hrest : rest.head? ≠ some '"') :
    contribution (before ++ (List.replicate (k + 1) '"' ++ rest)) before.length =
      List.replicate (keptQuotes (oddQuotes before) (k + 1)) '"' := by
  have hbegins : beginsRun (before ++ (List.replicate (k + 1) '"' ++ rest)) before.length := by
    rcases List.eq_nil_or_concat before with rfl | ⟨init, last, rfl⟩
    · rfl
    · have hlast : last ≠ '"' := by simpa using hbefore
      simp [beginsRun, hlast]
  have hlength : runLength (before ++ (List.replicate (k + 1) '"' ++ rest)) before.length
      = k + 1 := by
    have hnone : rest.takeWhile (· = '"') = [] := by
      cases rest with
      | nil => rfl
      | cons c rest =>
        have hc : c ≠ '"' := by simpa using hrest
        rw [List.takeWhile_cons_of_neg (by simpa using hc)]
    rw [runLength, List.drop_left, List.takeWhile_append_of_pos (by simp), hnone]
    simp
  have hquote := getElem?_run (Nat.succ_pos k) before rest
  rw [Nat.add_zero] at hquote
  rw [contribution, hquote]
  simp only [ne_eq, not_true_eq_false, if_false]
  rw [if_pos hbegins, hlength, isInside_append]

/-- A run of quotes leaves what its first quote stands for. -/
theorem contribution_run (k : Nat) (hbefore : before.getLast? ≠ some '"')
    (hrest : rest.head? ≠ some '"') :
    (List.range' before.length (k + 1)).flatMap
        (contribution (before ++ (List.replicate (k + 1) '"' ++ rest))) =
      List.replicate (keptQuotes (oddQuotes before) (k + 1)) '"' := by
  rw [List.range'_succ, List.flatMap_cons, contribution_run_first k hbefore hrest]
  refine (congrArg _ (List.flatMap_eq_nil_iff.2 fun i hi => ?_)).trans (List.append_nil _)
  obtain ⟨hlo, hhi⟩ := List.mem_range'_1.1 hi
  obtain ⟨j, rfl⟩ := Nat.exists_eq_add_of_le hlo
  have hquote := getElem?_run (k := k + 1) (j := j + 1) (by omega) before rest
  have hprevious := getElem?_run (k := k + 1) (j := j) (by omega) before rest
  have hindex : before.length + 1 + j = before.length + (j + 1) := by omega
  have hbegins : beginsRun (before ++ (List.replicate (k + 1) '"' ++ rest))
      (before.length + (j + 1)) = false := by
    rw [beginsRun, ← Nat.add_assoc, Nat.add_sub_cancel, hprevious]
    simp
  rw [hindex, contribution, hquote]
  simp [hbegins]

end Positions

/-- **The flag is the parity of the quotes before**: wherever a character or a whole run begins,
what is cut from there on with that flag are the fields of the positions from there on. -/
theorem cut_eq_fieldsFrom (before cs : List Char)
    (h : before.getLast? = some '"' → cs.head? ≠ some '"') :
    (cut (oddQuotes before) cs).1 :: (cut (oddQuotes before) cs).2 =
      fieldsFrom (before ++ cs) before.length := by
  induction before, cs using runs_induction with
  | nil before =>
    have hend := fieldsFrom_length before
    rw [List.append_nil, hend, cut]
  | char before c rest hc ih =>
    have hrest := ih fun hlast => absurd (by simpa using hlast) hc
    rw [oddQuotes_append_char hc, List.append_assoc, List.singleton_append, List.length_append,
      List.length_singleton] at hrest
    have hlt : before.length < (before ++ c :: rest).length := by simp
    by_cases hsep : c = ' ' ∧ oddQuotes before = false
    · obtain ⟨rfl, heven⟩ := hsep
      have hseparates : separates (before ++ ' ' :: rest) before.length = true := by
        simp [separates_append_cons, heven]
      rw [fieldsFrom_separates hlt hseparates, ← hrest, heven, cut_space]
    · have hseparates : separates (before ++ c :: rest) before.length = false := by
        simpa [separates_append_cons] using hsep
      have hflag : oddQuotes before = true ∨ c ≠ ' ' := by
        by_cases hspace : c = ' '
        · exact Or.inl (by simpa [hspace] using hsep)
        · exact Or.inr hspace
      rw [fieldsFrom_keeps hlt hseparates, ← hrest, contribution_char hc, cut_keeps hc hflag]
      rfl
  | run before k rest hrest ih =>
    have hbefore : before.getLast? ≠ some '"' := fun hlast => h hlast rfl
    have hafter := ih fun _ => hrest
    rw [oddQuotes_append_replicate, List.append_assoc, List.length_append,
      List.length_replicate] at hafter
    have hle : before.length + (k + 1) ≤
        (before ++ (List.replicate (k + 1) '"' ++ rest)).length := by
      simp only [List.length_append, List.length_replicate]
      omega
    have hseparates : ∀ i, before.length ≤ i → i < before.length + (k + 1) →
        separates (before ++ (List.replicate (k + 1) '"' ++ rest)) i = false := by
      intro i hlo hhi
      obtain ⟨j, rfl⟩ := Nat.exists_eq_add_of_le hlo
      rw [separates, getElem?_run (by omega)]
      rfl
    rw [fieldsFrom_keeps_all (k + 1) hle hseparates, ← hafter, contribution_run k hbefore hrest,
      cut_run hrest]
    rfl

/-- There is one piece more than there are cuts. -/
theorem length_splitOnP {α : Type} (p : α → Bool) : ∀ l : List α,
    (l.splitOnP p).length = l.countP p + 1
  | [] => rfl
  | a :: l => by
    rw [List.splitOnP_cons_eq_if_modifyHead, List.countP_cons]
    cases p a <;> simp [length_splitOnP p l]

/-- **Quotes in rows.**  The fields of a line are its positions cut at the spaces that an even
number of quotes precedes, one field more than there are such spaces.  In a field every character
but the quote stays as it is, and a run of quotes leaves half of them, rounded down; one that an
even number of quotes precedes loses its first quote before.  There is nothing else in it. -/
theorem rowFields_of_quote_parity (line : String) :
    rowFields line =
        ((List.range line.toList.length).splitOnP (separates line.toList)).map
          (fun field => String.ofList (field.flatMap (contribution line.toList))) ∧
      (rowFields line).length =
        (List.range line.toList.length).countP (separates line.toList) + 1 := by
  have hrow : row line.toList = fieldsFrom line.toList 0 :=
    cut_eq_fieldsFrom [] line.toList (by simp)
  have hfields : rowFields line =
      ((List.range line.toList.length).splitOnP (separates line.toList)).map
        (fun field => String.ofList (field.flatMap (contribution line.toList))) := by
    rw [rowFields, hrow, fieldsFrom, Nat.sub_zero, ← List.range_eq_range', List.map_map]
    rfl
  refine ⟨hfields, ?_⟩
  rw [hfields, List.length_map, length_splitOnP]

/-- Runs of one, three, four and five quotes, in and outside quotes. -/
example : rowFields "a\"\"\"b \"\"\" c\"\"\"\" d\" e\"\"\"\"\" f" =
    ["a\"b \"", "c\"", "d e\"\"", "f"] := by decide

end CallBook.Catalog.Tabular
