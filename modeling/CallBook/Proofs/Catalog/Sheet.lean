import CallBook.Catalog.Tabular
import CallBook.Proofs.Json.Fields
import CallBook.Proofs.Text.Lines
import Mathlib.Data.List.Forall2
/-!
# Sheets

A sheet is a tabular catalog as somebody may have written it: keys and rows, and every choice
that writing them leaves open.  A field stands in quotes, or bare if it can; white space stands
between the keys and on lines of its own; a line ends with any number of carriage returns and a
line feed, which the last line may lack.  The types allow only choices that are open.

Reading undoes writing, whatever was chosen (`records_of_sheet`): there is one record for each
row, and `RecordOf` says what is in it.  The text is read in four stages, and each has its law:
lines (`contentLines_source`), keys (`words_source`), fields (`row_source`) and values
(`recordOf_record`).
-/

namespace CallBook.Catalog

open Json (Value Fields)

/-! ## 1. What can be written -/

namespace Sheet

/-- White space within a line. -/
structure Blanks where
  text : List Char
  blank : ∀ c ∈ text, Text.isBlank c = true
  oneLine : '\n' ∉ text

/-- White space between two keys. -/
structure Gap extends Blanks where
  nonempty : text ≠ []

/-- The name of a column. -/
structure Key where
  text : List Char
  nonempty : text ≠ []
  solid : ∀ c ∈ text, Text.isBlank c = false

/-- A field as it is written: any text without a line feed in quotes, or a text without blanks
and quotes as it is. -/
inductive Field where
  | quoted (text : List Char) (oneLine : '\n' ∉ text)
  | bare (text : List Char) (nonempty : text ≠ [])
      (plain : ∀ c ∈ text, Text.isBlank c = false ∧ c ≠ '"')

/-- A line below the keys: white space, or a row and the carriage returns at its end. -/
inductive Line where
  | blank (blanks : Blanks)
  | row (first : Field) (more : List Field) (returns : Nat)

/-- A quote is written twice. -/
def double (c : Char) : List Char := if c = '"' then ['"', '"'] else [c]

/-- The text that a field holds. -/
def Field.text : Field → List Char
  | .quoted text _ => text
  | .bare text _ _ => text

/-- A field as it is written. -/
def Field.source : Field → List Char
  | .quoted text _ => '"' :: (text.flatMap double ++ ['"'])
  | .bare text _ _ => text

/-- Fields with single spaces between them. -/
def rowSource (fields : List Field) : List Char := [' '].intercalate (fields.map Field.source)

/-- A line without its line feed. -/
def Line.source : Line → List Char
  | .blank blanks => blanks.text
  | .row first more returns => rowSource (first :: more) ++ List.replicate returns '\r'

/-- The texts of the fields of a line, unless it is white space. -/
def Line.fields? : Line → Option (List String)
  | .blank _ => none
  | .row first more _ => some ((first :: more).map fun f => String.ofList f.text)

end Sheet

/-- A tabular catalog as it is written. -/
structure Sheet where
  /-- Lines above the keys. -/
  above : List Sheet.Blanks
  firstKey : Sheet.Key
  /-- The other keys, each with the white space before it. -/
  moreKeys : List (Sheet.Gap × Sheet.Key)
  /-- The carriage returns at the end of the line of keys. -/
  returns : Nat
  below : List Sheet.Line
  /-- The last line ends with a line feed. -/
  ended : Bool

namespace Sheet

/-- The names of the columns. -/
def keys (s : Sheet) : List String :=
  (s.firstKey :: s.moreKeys.map (·.2)).map fun k => String.ofList k.text

/-- The rows with the texts of their fields. -/
def rows (s : Sheet) : List (List String) := s.below.filterMap Line.fields?

/-- The keys as they are written. -/
def keySource (s : Sheet) : List Char :=
  s.firstKey.text ++ s.moreKeys.flatMap fun (gap, key) => gap.text ++ key.text

/-- The lines without their line feeds. -/
def lineSources (s : Sheet) : List (List Char) :=
  s.above.map Blanks.text ++
    (s.keySource ++ List.replicate s.returns '\r') :: s.below.map Line.source

/-- The sheet as it is written. -/
def source (s : Sheet) : List Char :=
  ['\n'].intercalate s.lineSources ++ if s.ended then ['\n'] else []

end Sheet

/-! ## 2. What is read -/

namespace Tabular

/-- The value of a field in a column. -/
inductive CellValue (column field : String) : Value → Prop
  /-- The word `null` is no value. -/
  | absent : field = "null" → CellValue column field .null
  /-- Outside the body, what begins with a brace and is JSON is read as JSON. -/
  | json {v : Value} :
      column ≠ "body" → field.toList.head? = some '{' → Json.parse field = .ok v →
        CellValue column field v
  /-- Everything else is text. -/
  | text :
      field ≠ "null" →
      (column = "body" ∨ field.toList.head? ≠ some '{' ∨ ∃ e, Json.parse field = .error e) →
        CellValue column field (.string field)

/-- The record of a row: it has the columns that the row reaches and no others, and the value
of a column is that of the last field which stands in a column of that name. -/
structure RecordOf (columns row : List String) (record : Fields) : Prop where
  ascending : record.Ascending
  reached : ∀ column, (record.get? column).isSome = true ↔ column ∈ columns.take row.length
  last : ∀ i column field, columns[i]? = some column → row[i]? = some field →
    (∀ j, i < j → j < row.length → columns[j]? ≠ some column) →
      ∃ v, record.get? column = some v ∧ CellValue column field v

/-- The value of a field is the one that it is read as. -/
theorem cellValue_decode (column field : String) :
    CellValue column field (decode column field) := by
  unfold decode
  split
  · rename_i hnull
    exact .absent hnull
  · rename_i hnull
    split
    · rename_i hbrace
      unfold jsonOrText
      split
      · rename_i hparse
        exact .json hbrace.1 hbrace.2 hparse
      · rename_i e hparse
        exact .text hnull (Or.inr (Or.inr ⟨e, hparse⟩))
    · rename_i hbrace
      refine .text hnull ?_
      by_cases hcolumn : column = "body"
      · exact Or.inl hcolumn
      · exact Or.inr (Or.inl fun hhead => hbrace ⟨hcolumn, hhead⟩)

/-- The last pair with a name is the one that is found from the end. -/
theorem lookup_reverse_of_last {α : Type} {l : List (String × α)} {i : Nat} {name : String}
    {a : α} (h : l[i]? = some (name, a))
    (hlast : ∀ j b, i < j → l[j]? ≠ some (name, b)) : l.reverse.lookup name = some a := by
  obtain ⟨hi, hget⟩ := List.getElem?_eq_some_iff.1 h
  have hsplit : l = l.take i ++ (name, a) :: l.drop (i + 1) := by
    rw [← hget, List.getElem_cons_drop, List.take_append_drop]
  refine List.lookup_eq_some_iff.2 ⟨(l.drop (i + 1)).reverse, (l.take i).reverse,
    (congrArg List.reverse hsplit).trans ?_, ?_⟩
  · simp
  · rintro ⟨other, b⟩ hmem
    obtain ⟨j, hj⟩ := List.mem_iff_getElem?.1 (List.mem_reverse.1 hmem)
    rw [List.getElem?_drop] at hj
    rw [bne_iff_ne]
    rintro rfl
    exact hlast (i + 1 + j) b (by omega) hj

theorem map_fst_zip_eq_take {α β : Type} : ∀ (l : List α) (m : List β),
    (l.zip m).map Prod.fst = l.take m.length
  | [], _ => by simp
  | _ :: _, [] => by simp
  | a :: l, b :: m => by simp [map_fst_zip_eq_take l m]

/-- **A record holds the fields of its row.** -/
theorem recordOf_record (columns : List String) (line : List Char) :
    RecordOf columns (rowFields (String.ofList line)) (record columns line) := by
  have hcells : cells columns line = columns.zip (rowFields (String.ofList line)) := by
    rw [cells, rowFields, String.toList_ofList]
  rw [record, hcells]
  generalize rowFields (String.ofList line) = fields
  refine ⟨Fields.ascending_ofList _, ?_, ?_⟩
  · intro column
    rw [Fields.get?_ofList, List.lookup_isSome_iff, ← map_fst_zip_eq_take]
    simp only [List.mem_reverse, List.mem_map, beq_iff_eq]
    constructor
    · rintro ⟨-, ⟨⟨c, f⟩, hmem, rfl⟩, rfl⟩
      exact ⟨_, hmem, rfl⟩
    · rintro ⟨⟨c, f⟩, hmem, rfl⟩
      exact ⟨_, ⟨_, hmem, rfl⟩, rfl⟩
  · intro i column field hcolumn hfield hlast
    refine ⟨decode column field, ?_, cellValue_decode column field⟩
    rw [Fields.get?_ofList]
    refine lookup_reverse_of_last (i := i) ?_ ?_
    · have hzip : (columns.zip fields)[i]? = some (column, field) :=
        List.getElem?_zip_eq_some.2 ⟨hcolumn, hfield⟩
      rw [List.getElem?_map, hzip]
      rfl
    · intro j b hj hget
      rw [List.getElem?_map, Option.map_eq_some_iff] at hget
      obtain ⟨⟨c, f⟩, hzip, heq⟩ := hget
      obtain ⟨hc, hf⟩ := List.getElem?_zip_eq_some.1 hzip
      cases heq
      exact hlast j hj (List.getElem?_eq_some_iff.1 hf).1 hc

/-! ## 3. Fields are read back -/

theorem cut_space (rest : List Char) :
    cut false (' ' :: rest) = ([], (cut false rest).1 :: (cut false rest).2) := by
  rw [cut]
  · simp
  · simp

theorem cut_plain {c : Char} (hquote : c ≠ '"') (hspace : c ≠ ' ') (cs : List Char) :
    cut false (c :: cs) = (c :: (cut false cs).1, (cut false cs).2) := by
  rw [cut]
  · simp [hquote, hspace]
  · simp

theorem cut_bare {text : List Char} (h : ∀ c ∈ text, c ≠ '"' ∧ c ≠ ' ') (rest : List Char) :
    cut false (text ++ rest) = (text ++ (cut false rest).1, (cut false rest).2) := by
  induction text with
  | nil => rfl
  | cons c text ih =>
    obtain ⟨hquote, hspace⟩ := h c List.mem_cons_self
    rw [List.cons_append, cut_plain hquote hspace,
      ih fun d hd => h d (List.mem_cons_of_mem c hd)]
    rfl

theorem cut_open (cs : List Char) : cut false ('"' :: cs) = cut true cs := by
  rw [cut]
  · simp
  · simp

theorem cut_close {rest : List Char} (h : rest.head? ≠ some '"') :
    cut true ('"' :: rest) = cut false rest := by
  rw [cut]
  · simp
  · rintro cs - - rfl
    exact h rfl

theorem cut_inside {c : Char} (h : c ≠ '"') (cs : List Char) :
    cut true (c :: cs) = (c :: (cut true cs).1, (cut true cs).2) := by
  rw [cut]
  · simp [h]
  · rintro cs - hquote -
    exact h hquote

/-- Inside quotes a text is read up to the quote that no quote follows. -/
theorem cut_quoted (text : List Char) {rest : List Char} (h : rest.head? ≠ some '"') :
    cut true (text.flatMap Sheet.double ++ '"' :: rest) =
      (text ++ (cut false rest).1, (cut false rest).2) := by
  induction text with
  | nil => rw [List.flatMap_nil, List.nil_append, cut_close h]; rfl
  | cons c text ih =>
    rw [List.flatMap_cons, List.append_assoc]
    by_cases hc : c = '"'
    · subst hc
      rw [Sheet.double, if_pos rfl, List.cons_append, List.cons_append, List.nil_append, cut, ih]
      rfl
    · rw [Sheet.double, if_neg hc, List.singleton_append, cut_inside hc, ih]
      rfl

/-- **A field is read back**, however it is written, up to what cannot belong to it. -/
theorem cut_field (f : Sheet.Field) {rest : List Char} (h : rest.head? ≠ some '"') :
    cut false (f.source ++ rest) = (f.text ++ (cut false rest).1, (cut false rest).2) := by
  cases f with
  | quoted text oneLine =>
    have hsource : (Sheet.Field.quoted text oneLine).source ++ rest
        = '"' :: (text.flatMap Sheet.double ++ '"' :: rest) := by simp [Sheet.Field.source]
    rw [hsource, cut_open, cut_quoted text h]
    rfl
  | bare text nonempty plain =>
    refine cut_bare (fun c hc => ⟨(plain c hc).2, ?_⟩) rest
    rintro rfl
    exact absurd (plain _ hc).1 (by decide)

/-- **The fields of a row are read back.** -/
theorem row_source : ∀ (first : Sheet.Field) (more : List Sheet.Field),
    row (Sheet.rowSource (first :: more)) = (first :: more).map Sheet.Field.text
  | first, [] => by
    have hcut : cut false (first.source ++ []) = (first.text ++ (cut false []).1, (cut false []).2) :=
      cut_field first (by simp)
    rw [List.append_nil] at hcut
    simp [row, Sheet.rowSource, hcut, cut]
  | first, second :: more => by
    have ih := row_source second more
    have hsource : Sheet.rowSource (first :: second :: more)
        = first.source ++ ' ' :: Sheet.rowSource (second :: more) := by
      simp [Sheet.rowSource]
    have hnext : (' ' :: Sheet.rowSource (second :: more)).head? ≠ some '"' := by simp
    rw [hsource, row, cut_field first hnext, cut_space, List.append_nil, ← row, ih]
    rfl

/-! ## 4. Keys are read back -/

theorem words_keys (key : Sheet.Key) : ∀ more : List (Sheet.Gap × Sheet.Key),
    Text.words (key.text ++ more.flatMap fun (gap, key) => gap.text ++ key.text) =
      key.text :: more.map fun (_, key) => key.text
  | [] => by
    rw [List.flatMap_nil, Text.words_word_append key.nonempty key.solid (by simp),
      Text.words_of_dropWhile_nil rfl]
    rfl
  | (gap, next) :: more => by
    have hgap : ∀ c ∈ (gap.text ++ (next.text ++ more.flatMap fun (gap, key) =>
        gap.text ++ key.text)).head?, Text.isBlank c = true := by
      obtain ⟨c, cs, hcs⟩ := List.exists_cons_of_ne_nil gap.nonempty
      simpa [hcs] using gap.blank c (by simp [hcs])
    rw [List.flatMap_cons, List.append_assoc, Text.words_word_append key.nonempty key.solid hgap,
      Text.words_blank_append gap.blank, words_keys next more]
    rfl

theorem words_source (s : Sheet) : (Text.words s.keySource).map String.ofList = s.keys := by
  rw [Sheet.keySource, words_keys]
  simp [Sheet.keys]

/-! ## 5. Lines are read back

A line of white space counts for nothing, and another line for itself less the carriage returns
at its end.  Both are said by `kept`. -/

/-- What a line adds to those that count. -/
def kept (line : List Char) : List (List Char) :=
  if Text.allBlank line then [] else [Text.dropEndWhile (· = '\r') line]

theorem filter_dropEndWhile (line : List Char) :
    [Text.dropEndWhile (· = '\r') line].filter (!Text.allBlank ·) = kept line := by
  rw [List.filter_cons, List.filter_nil, Text.allBlank_dropEndWhile_return, kept]
  cases Text.allBlank line <;> rfl

theorem contentLines_append {line : List Char} (rest : List Char) (h : '\n' ∉ line) :
    contentLines (line ++ '\n' :: rest) = kept line ++ contentLines rest := by
  rw [contentLines, Text.lines_append rest h, List.map_cons, Text.dropEndWhile_dropReturn,
    ← List.singleton_append, List.filter_append, filter_dropEndWhile]
  rfl

theorem contentLines_of_not_mem {line : List Char} (h : '\n' ∉ line) :
    contentLines line = kept line := by
  rw [contentLines, Text.lines_of_not_mem h]
  cases line with
  | nil => rfl
  | cons c line => exact filter_dropEndWhile (c :: line)

/-- **Every line counts for what it adds**, whether or not a line feed ends the last. -/
theorem contentLines_intercalate (ended : Bool) : ∀ lines : List (List Char), lines ≠ [] →
    (∀ line ∈ lines, '\n' ∉ line) →
      contentLines (['\n'].intercalate lines ++ if ended then ['\n'] else []) =
        lines.flatMap kept
  | [], hne, _ => absurd rfl hne
  | [line], _, h => by
    have hline := h line List.mem_cons_self
    cases ended with
    | false => simp [contentLines_of_not_mem hline]
    | true =>
      have hnil : contentLines [] = [] := contentLines_of_not_mem List.not_mem_nil
      simp [contentLines_append [] hline, hnil]
  | line :: next :: more, _, h => by
    have ih := contentLines_intercalate ended (next :: more) (List.cons_ne_nil _ _)
      fun l hl => h l (List.mem_cons_of_mem _ hl)
    rw [List.intercalate_cons_cons, List.append_assoc, List.append_assoc, List.singleton_append,
      contentLines_append _ (h line List.mem_cons_self), ih]
    rfl

theorem kept_blanks (b : Sheet.Blanks) : kept b.text = [] :=
  if_pos (List.all_eq_true.2 b.blank)

/-- The last character of a text is not blank. -/
def EndsSolid (cs : List Char) : Prop := ∃ c, cs.getLast? = some c ∧ Text.isBlank c = false

theorem EndsSolid.append {cs : List Char} (h : EndsSolid cs) (front : List Char) :
    EndsSolid (front ++ cs) := by
  obtain ⟨c, hlast, hc⟩ := h
  refine ⟨c, ?_, hc⟩
  rw [List.getLast?_append, hlast]
  rfl

theorem endsSolid_of_forall {cs : List Char} (hne : cs ≠ [])
    (h : ∀ c ∈ cs, Text.isBlank c = false) : EndsSolid cs :=
  ⟨cs.getLast hne, List.getLast?_eq_some_getLast hne, h _ (List.getLast_mem hne)⟩

theorem kept_returns {line : List Char} (h : EndsSolid line) (n : Nat) :
    kept (line ++ List.replicate n '\r') = [line] := by
  obtain ⟨c, hlast, hc⟩ := h
  have hblank : ¬ Text.allBlank (line ++ List.replicate n '\r') = true := by
    intro h
    have hall := List.all_eq_true.1 h c (List.mem_append_left _ (List.mem_of_getLast? hlast))
    exact Bool.false_ne_true (hc.symm.trans hall)
  have hreturn : ∀ d ∈ line.getLast?, decide (d = '\r') = false := by
    intro d hd
    rw [hlast, Option.mem_some_iff] at hd
    rw [decide_eq_false_iff_not]
    rintro rfl
    exact absurd (hd ▸ hc) (by decide)
  rw [kept, if_neg hblank, Text.dropEndWhile_append_of_pos _ (by simp),
    Text.dropEndWhile_of_getLast? hreturn]

theorem endsSolid_field (f : Sheet.Field) : EndsSolid f.source := by
  cases f with
  | quoted text oneLine =>
    have hquote : ∀ c ∈ ['"'], Text.isBlank c = false := by
      intro c hc
      rw [List.mem_singleton.1 hc]
      decide
    exact (endsSolid_of_forall (List.cons_ne_nil _ _) hquote).append ('"' :: _)
  | bare text nonempty plain => exact endsSolid_of_forall nonempty fun c hc => (plain c hc).1

theorem endsSolid_row : ∀ (first : Sheet.Field) (more : List Sheet.Field),
    EndsSolid (Sheet.rowSource (first :: more))
  | first, [] => by simpa [Sheet.rowSource] using endsSolid_field first
  | first, second :: more => by
    have hsource : Sheet.rowSource (first :: second :: more)
        = (first.source ++ [' ']) ++ Sheet.rowSource (second :: more) := by
      simp [Sheet.rowSource]
    rw [hsource]
    exact (endsSolid_row second more).append _

theorem endsSolid_keys (key : Sheet.Key) : ∀ more : List (Sheet.Gap × Sheet.Key),
    EndsSolid (key.text ++ more.flatMap fun (gap, key) => gap.text ++ key.text)
  | [] => by simpa using endsSolid_of_forall key.nonempty key.solid
  | (gap, next) :: more => by
    rw [List.flatMap_cons, List.append_assoc, ← List.append_assoc]
    exact (endsSolid_keys next more).append _

/-! ## 6. Sheets are read back -/

theorem ne_lineFeed_of_solid {c : Char} (h : Text.isBlank c = false) : c ≠ '\n' := by
  rintro rfl
  exact absurd h (by decide)

theorem oneLine_field (f : Sheet.Field) : '\n' ∉ f.source := by
  cases f with
  | quoted text oneLine =>
    have hdouble : ∀ c ∈ text, '\n' ∉ Sheet.double c := by
      intro c hc hmem
      unfold Sheet.double at hmem
      split at hmem
      · exact absurd hmem (by decide)
      · exact oneLine (List.mem_singleton.1 hmem ▸ hc)
    simpa [Sheet.Field.source] using hdouble
  | bare text nonempty plain => exact fun h => ne_lineFeed_of_solid (plain _ h).1 rfl

theorem oneLine_row : ∀ (first : Sheet.Field) (more : List Sheet.Field),
    '\n' ∉ Sheet.rowSource (first :: more)
  | first, [] => by simpa [Sheet.rowSource] using oneLine_field first
  | first, second :: more => by
    have ih := oneLine_row second more
    have hfirst := oneLine_field first
    simp only [Sheet.rowSource, List.map_cons, List.intercalate_cons_cons] at ih ⊢
    simp [hfirst, ih]

theorem oneLine_keys (s : Sheet) : '\n' ∉ s.keySource := by
  have hkey : ∀ key : Sheet.Key, '\n' ∉ key.text := fun key h =>
    ne_lineFeed_of_solid (key.solid _ h) rfl
  simp only [Sheet.keySource, List.mem_append, List.mem_flatMap, not_or, not_exists, not_and]
  exact ⟨hkey _, fun e _ => ⟨e.1.oneLine, hkey e.2⟩⟩

theorem oneLine_lineSources (s : Sheet) : ∀ line ∈ s.lineSources, '\n' ∉ line := by
  intro line hline
  rcases List.mem_append.1 hline with habove | hline
  · obtain ⟨b, -, rfl⟩ := List.mem_map.1 habove
    exact b.oneLine
  · rcases List.mem_cons.1 hline with rfl | hbelow
    · simp [oneLine_keys s]
    · obtain ⟨l, -, rfl⟩ := List.mem_map.1 hbelow
      cases l with
      | blank b => exact b.oneLine
      | row first more returns => simp [Sheet.Line.source, oneLine_row first more]

/-- The row of a line, as it is written, unless the line is white space. -/
def rowText? : Sheet.Line → Option (List Char)
  | .blank _ => none
  | .row first more _ => some (Sheet.rowSource (first :: more))

theorem flatMap_kept : ∀ below : List Sheet.Line,
    (below.map Sheet.Line.source).flatMap kept = below.filterMap rowText?
  | [] => rfl
  | .blank b :: below => by
    rw [List.map_cons, List.flatMap_cons, flatMap_kept below, Sheet.Line.source, kept_blanks]
    rfl
  | .row first more returns :: below => by
    rw [List.map_cons, List.flatMap_cons, flatMap_kept below, Sheet.Line.source,
      kept_returns (endsSolid_row first more)]
    rfl

/-- The lines that count are the keys and the rows. -/
theorem contentLines_source (s : Sheet) :
    contentLines s.source = s.keySource :: s.below.filterMap rowText? := by
  have habove : (s.above.map Sheet.Blanks.text).flatMap kept = [] := by
    rw [List.flatMap_eq_nil_iff]
    intro line hline
    obtain ⟨b, -, rfl⟩ := List.mem_map.1 hline
    exact kept_blanks b
  have hkeys : kept (s.keySource ++ List.replicate s.returns '\r') = [s.keySource] :=
    kept_returns (endsSolid_keys s.firstKey s.moreKeys) s.returns
  rw [Sheet.source, contentLines_intercalate s.ended s.lineSources (by simp [Sheet.lineSources])
    (oneLine_lineSources s), Sheet.lineSources, List.flatMap_append, habove, List.flatMap_cons,
    hkeys, flatMap_kept]
  rfl

theorem forall₂_records (columns : List String) : ∀ below : List Sheet.Line,
    List.Forall₂ (RecordOf columns) (below.filterMap Sheet.Line.fields?)
      ((below.filterMap rowText?).map (record columns))
  | [] => .nil
  | .blank _ :: below => forall₂_records columns below
  | .row first more _ :: below => by
    refine .cons ?_ (forall₂_records columns below)
    have hrow := recordOf_record columns (Sheet.rowSource (first :: more))
    rw [rowFields, String.toList_ofList, row_source, List.map_map] at hrow
    exact hrow

/-- **Reading undoes writing.**  However a sheet is written, its text has one record for each
row, in order, and the record holds the fields of the row. -/
theorem records_of_sheet (s : Sheet) :
    List.Forall₂ (RecordOf s.keys) s.rows (records (String.ofList s.source)) := by
  have htable : table (String.ofList s.source) = (s.keys, s.below.filterMap rowText?) := by
    rw [table, String.toList_ofList, contentLines_source, ← words_source]
  rw [records, htable]
  exact forall₂_records s.keys s.below

end Tabular

end CallBook.Catalog
