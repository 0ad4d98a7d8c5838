import CallBook.Proofs.Catalog.Sheet
import CallBook.Proofs.Request.Outcome
import CallBook.Proofs.Text.Cuts
import Mathlib.Logic.Relation
/-!
# Edits of a table

The rows of a tabular catalog stand for themselves: no quote, brace or template of one line has
an effect on another.  So a call is not concerned by what happens to lines that stand for other
entries.  `Edit` lists what can happen below the header: such a line goes, is replaced by another
or by a blank one, or comes in.

A text can be cut wherever a line ends (`contentLines_append_of_endsLine`), so an edit changes
the entries in one place, and exchanges only entries of other calls there
(`Edit.exists_entries`).  After any number of edits the call is found as before, and its request
is the same (`outcome_of_edits`).
-/

namespace CallBook

namespace Catalog.Tabular

/-! ## 1. Cutting a text between its lines -/

/-- What follows a line: nothing, or a line feed and the lines below. -/
def EndsLine (rest : List Char) : Prop := ∀ c ∈ rest.head?, c = '\n'

theorem endsLine_cons (rest : List Char) : EndsLine ('\n' :: rest) := by simp [EndsLine]

/-- A line feed at the front ends an empty line, which does not count. -/
theorem contentLines_lineFeed (rest : List Char) :
    contentLines ('\n' :: rest) = contentLines rest :=
  contentLines_append rest List.not_mem_nil

/-- **The lines that count on the two sides of a cut are those of the whole.** -/
theorem contentLines_append_of_endsLine (above : List Char) {rest : List Char}
    (h : EndsLine rest) :
    contentLines (above ++ rest) = contentLines above ++ contentLines rest := by
  obtain ⟨line, hline, habove | ⟨more, habove⟩⟩ := Text.exists_piece '\n' above
  · rw [habove]
    cases rest with
    | nil =>
      have hnil : contentLines [] = [] := contentLines_of_not_mem List.not_mem_nil
      rw [hnil, List.append_nil, List.append_nil]
    | cons c rest =>
      obtain rfl : c = '\n' := h c rfl
      rw [contentLines_append rest hline, contentLines_of_not_mem hline, contentLines_lineFeed]
  · rw [habove, List.append_assoc, List.cons_append, contentLines_append _ hline,
      contentLines_append _ hline, contentLines_append_of_endsLine more h, List.append_assoc]
termination_by above.length
decreasing_by
  rw [habove, List.length_append, List.length_cons]
  omega

/-! ## 2. Lines and entries -/

/-- The entry that a line stands for under some columns. -/
def lineEntry (columns : List String) (line : List Char) : Entry :=
  Entry.ofRecord (record columns (Text.dropEndWhile (· = '\r') line))

/-- The entries of the lines that count. -/
def lineEntries (columns : List String) (lines : List (List Char)) : List Entry :=
  lines.map fun line => Entry.ofRecord (record columns line)

/-- A line that does not stand for the entry of a call: it is blank, or its entry has another
service or name. -/
def Foreign (columns : List String) (service name : String) (line : List Char) : Prop :=
  '\n' ∉ line ∧
    (Text.allBlank line = true ∨
      ¬ ((lineEntry columns line).service = service ∧ (lineEntry columns line).name = name))

/-- The columns that the header of a text names. -/
def columnsOf (text : List Char) : List String := (table (String.ofList text)).1

theorem lacks_kept {columns : List String} {service name : String} {line : List Char}
    (h : Foreign columns service name line) :
    Book.Lacks (lineEntries columns (kept line)) service name := by
  intro e he
  unfold kept at he
  split at he
  · exact absurd he List.not_mem_nil
  · rename_i hblank
    rw [lineEntries, List.map_singleton, List.mem_singleton] at he
    rw [he]
    exact h.2.resolve_left hblank

/-- The entries of a text that is cut below its header. -/
theorem entries_append {above rest : List Char} (hheader : contentLines above ≠ [])
    (hrest : EndsLine rest) :
    entries (String.ofList (above ++ rest)) =
      entries (String.ofList above) ++ lineEntries (columnsOf above) (contentLines rest) := by
  obtain ⟨header, rows, hlines⟩ := List.exists_cons_of_ne_nil hheader
  simp only [entries, records, columnsOf, table, String.toList_ofList,
    contentLines_append_of_endsLine above hrest, hlines, List.cons_append, List.map_append,
    List.map_map, lineEntries, Function.comp_def]

/-- The entries of a text with a line below the header. -/
theorem entries_append_line {above line below : List Char} (hheader : contentLines above ≠ [])
    (hline : '\n' ∉ line) (hbelow : EndsLine below) :
    entries (String.ofList (above ++ '\n' :: line ++ below)) =
      entries (String.ofList above) ++ lineEntries (columnsOf above) (kept line) ++
        lineEntries (columnsOf above) (contentLines below) := by
  rw [List.append_assoc, List.cons_append, entries_append hheader (endsLine_cons _),
    contentLines_lineFeed, contentLines_append_of_endsLine line hbelow,
    contentLines_of_not_mem hline, lineEntries, List.map_append, List.append_assoc]
  rfl

/-! ## 3. Edits -/

/-- A place where a line ends, below the header. -/
structure Place (above below : List Char) : Prop where
  header : contentLines above ≠ []
  ended : EndsLine below

/-- What can happen to the lines below the header that do not stand for the entry of a call. -/
inductive Edit (service name : String) : String → String → Prop
  | delete {above line below : List Char} :
      Place above below → Foreign (columnsOf above) service name line →
        Edit service name (String.ofList (above ++ '\n' :: line ++ below))
          (String.ofList (above ++ below))
  | replace {above line other below : List Char} :
      Place above below → Foreign (columnsOf above) service name line →
      Foreign (columnsOf above) service name other →
        Edit service name (String.ofList (above ++ '\n' :: line ++ below))
          (String.ofList (above ++ '\n' :: other ++ below))
  | insert {above line below : List Char} :
      Place above below → Foreign (columnsOf above) service name line →
        Edit service name (String.ofList (above ++ below))
          (String.ofList (above ++ '\n' :: line ++ below))

variable {service name : String} {before after : String}

/-- **An edit exchanges entries of other calls** in one place. -/
theorem Edit.exists_entries (h : Edit service name before after) :
    ∃ above gone come below,
      entries before = above ++ gone ++ below ∧ entries after = above ++ come ++ below ∧
        Book.Lacks gone service name ∧ Book.Lacks come service name := by
  have hnone : Book.Lacks [] service name := fun e he => absurd he List.not_mem_nil
  cases h with
  | @delete above line below place foreign =>
    refine ⟨_, _, [], _, entries_append_line place.header foreign.1 place.ended, ?_,
      lacks_kept foreign, hnone⟩
    rw [entries_append place.header place.ended, List.append_nil]
  | @replace above line other below place foreign foreign' =>
    exact ⟨_, _, _, _, entries_append_line place.header foreign.1 place.ended,
      entries_append_line place.header foreign'.1 place.ended, lacks_kept foreign,
      lacks_kept foreign'⟩
  | @insert above line below place foreign =>
    refine ⟨_, [], _, _, ?_, entries_append_line place.header foreign.1 place.ended, hnone,
      lacks_kept foreign⟩
    rw [entries_append place.header place.ended, List.append_nil]

/-- Entries of other calls make no difference to which is the first of a call. -/
theorem firstNamed?_exchange {above gone come : List Entry} (hgone : Book.Lacks gone service name)
    (hcome : Book.Lacks come service name) (below : List Entry) :
    firstNamed? (above ++ gone ++ below) service name =
      firstNamed? (above ++ come ++ below) service name := by
  have hnone := Book.firstNamed?_eq_none_iff.2 hgone
  have hnone' := Book.firstNamed?_eq_none_iff.2 hcome
  rw [firstNamed?] at hnone hnone'
  simp only [firstNamed?, List.find?_append, hnone, hnone', Option.or_none]

/-- **An edit does not concern the call**, -/
theorem Edit.firstNamed?_eq (h : Edit service name before after) :
    firstNamed? (entries before) service name = firstNamed? (entries after) service name := by
  obtain ⟨above, gone, come, below, hbefore, hafter, hgone, hcome⟩ := h.exists_entries
  rw [hbefore, hafter]
  exact firstNamed?_exchange hgone hcome below

/-- and neither do several. -/
theorem firstNamed?_of_edits (h : Relation.ReflTransGen (Edit service name) before after) :
    firstNamed? (entries before) service name = firstNamed? (entries after) service name := by
  induction h with
  | refl => rfl
  | tail _ hedit ih => exact ih.trans hedit.firstNamed?_eq

end Catalog.Tabular

/-! ## 4. Calls -/

open Catalog Catalog.Tabular

/-- The files in which a path leads to a text. -/
def Files.withText (files : Files) (path text : String) : Files where
  isFile p := p == path || files.isFile p
  readText p := if p = path then .ok text else files.readText p
  complaint := files.complaint

/-- A book in whose files a path leads to a text. -/
def Book.withText (b : Book) (path text : String) : Book :=
  { b with files := b.files.withText path text }

variable {service name before after path : String}

/-- Another text at the path of a table changes the entries if the catalog is read from there,
and nothing otherwise. -/
theorem Book.entries_withText (b : Book) (hpath : isStructured path = false)
    (explicit : Option String) :
    (∀ text, (b.withText path text).entries explicit = .ok (Tabular.entries text)) ∨
      ∃ outcome, ∀ text, (b.withText path text).entries explicit = outcome := by
  have hlocate : ∀ text, (b.withText path text).locate explicit =
      (b.withText path "").locate explicit := fun _ => rfl
  cases hread : (b.withText path "").locate explicit with
  | none =>
    refine Or.inr ⟨.ok [], fun text => ?_⟩
    have hnone := (hlocate text).trans hread
    rw [Book.locate] at hnone
    rw [Book.entries, Loader.entries, hnone]
  | some p =>
    have hsome : ∀ text, (b.withText path text).entries explicit =
        load (b.withText path text).files p := by
      intro text
      have hp := (hlocate text).trans hread
      rw [Book.locate] at hp
      rw [Book.entries, Loader.entries, hp]
    by_cases heq : p = path
    · refine Or.inl fun text => ?_
      rw [hsome, heq, load]
      simp [Book.withText, Files.withText, Catalog.parse, hpath]
    · refine Or.inr ⟨load b.files p, fun text => ?_⟩
      rw [hsome, load, load]
      simp [Book.withText, Files.withText, heq]

/-- **Edits of other entries do not concern a call.**  If lines of a table that do not stand for
a call go, come in or are replaced, in any number, then the call is found as before, and its
request or the failure to make it is the same. -/
theorem Book.outcome_of_edits (b : Book) (hpath : isStructured path = false)
    (h : Relation.ReflTransGen (Edit service name) before after) (overrides : Bindings)
    (explicit : Option String) :
    (b.withText path before).find? service name explicit =
        (b.withText path after).find? service name explicit ∧
      (b.withText path before).request service name overrides explicit =
        (b.withText path after).request service name overrides explicit := by
  have hfirst := firstNamed?_of_edits h
  have hscope : (b.withText path before).scope overrides = (b.withText path after).scope overrides :=
    rfl
  have hfind : ∀ text, (b.withText path text).find? service name explicit =
      ((b.withText path text).entries explicit).map (firstNamed? · service name) := fun _ => rfl
  rcases b.entries_withText hpath explicit with hread | ⟨outcome, hother⟩
  · rw [hfind, hfind, Book.request, Book.request, hread, hread]
    simp only [Except.map, hfirst, hscope, and_self]
  · rw [hfind, hfind, Book.request, Book.request, hother, hother, hscope]
    exact ⟨rfl, rfl⟩

/-! ## 5. Rows that are broken -/

/-- A header and the row of a call. -/
def headed : List Char := "service name url\nx y http://x.test/$PATH".toList

/-- The table with one more row. -/
def headedAnd (row : String) : String := String.ofList (headed ++ '\n' :: row.toList ++ ['\n'])

/-- A book without files. -/
def Book.unfilled : Book where
  files := ⟨fun _ => false, fun _ => .error .notFound, fun _ => ""⟩
  loader := ⟨none⟩
  environment := .empty
  aliases := .standard

/-- A row that leaves a quote open may be replaced by one with a brace that begins no JSON and a
value that is missing, and that row may go. -/
theorem Book.outcome_of_broken_rows :
    isStructured "apis.txt" = false ∧
    Relation.ReflTransGen (Edit "x" "y") (headedAnd "a b \"http://a.test/")
      (String.ofList (headed ++ ['\n'])) ∧
    (unfilled.withText "apis.txt" (headedAnd "a b \"http://a.test/")).find? "x" "y"
        (some "apis.txt") =
      (unfilled.withText "apis.txt" (String.ofList (headed ++ ['\n']))).find? "x" "y"
        (some "apis.txt") ∧
    (unfilled.withText "apis.txt" (headedAnd "a b \"http://a.test/")).request "x" "y" .empty
        (some "apis.txt") =
      (unfilled.withText "apis.txt" (String.ofList (headed ++ ['\n']))).request "x" "y" .empty
        (some "apis.txt") := by
  have hpath : isStructured "apis.txt" = false := by decide +kernel
  have hplace : Place headed ['\n'] := ⟨by decide +kernel, endsLine_cons []⟩
  have hunclosed : Foreign (columnsOf headed) "x" "y" "a b \"http://a.test/".toList :=
    ⟨by decide +kernel, Or.inr (by decide +kernel)⟩
  have hbroken : Foreign (columnsOf headed) "x" "y" "a b \x7b$!KEY".toList :=
    ⟨by decide +kernel, Or.inr (by decide +kernel)⟩
  have hedits : Relation.ReflTransGen (Edit "x" "y") (headedAnd "a b \"http://a.test/")
      (String.ofList (headed ++ ['\n'])) :=
    .tail (.single (.replace hplace hunclosed hbroken)) (.delete hplace hbroken)
  exact ⟨hpath, hedits,
    unfilled.outcome_of_edits hpath hedits .empty (some "apis.txt")⟩

end CallBook
