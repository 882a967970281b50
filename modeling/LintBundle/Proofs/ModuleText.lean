import LintBundle.Proofs.Bundling
import LintBundle.Proofs.JsonText
import LintBundle.Proofs.Literals

/-!
# Proofs/ModuleText — the text of a module determines the bundle

`decode` reads a module statement by statement, and fails on any text that is not made of just these
statements.  A literal is read up to the quote that is not escaped, and JSON data up to their end;
so whatever characters are inside, the next statement begins where it was written, and the module
of a bundle is decoded to what the bundle says (`Produced.decoded`).
-/

namespace LintBundle

namespace Bundle

/-! ## Reading a module -/

/-- What a module says: its imports by identifier and path, the identifier cached for each canonical
id, and the table of rules. -/
structure Statements where
  imports : List (Text × Text)
  cache : List (Text × Text)
  rules : List (Text × Json)

/-- A fixed word. -/
def expect (word cs : List Point) : Option (List Point) :=
  if word.isPrefixOf cs then some (cs.drop word.length) else none

/-- A name, which ends in front of a character. -/
def readName (stop : Point) (cs : List Point) : List Point × List Point :=
  (cs.takeWhile (· ≠ stop), cs.dropWhile (· ≠ stop))

/-- The statement of an import. -/
def readImport (cs : List Point) : Option ((Text × Text) × List Point) := do
  let cs ← expect ("import " : Text).toList cs
  let (identifier, cs) := readName (.char ' ') cs
  let cs ← expect (" from '" : Text).toList cs
  let (path, cs) ← Quoted.characters 0 cs
  let cs ← expect (";\n" : Text).toList cs
  return ((Text.ofList identifier, Text.ofList path), cs)

/-- The statement of a cache entry. -/
def readEntry (cs : List Point) : Option ((Text × Text) × List Point) := do
  let cs ← expect ("cache['" : Text).toList cs
  let (id, cs) ← Quoted.characters 0 cs
  let cs ← expect ("] = " : Text).toList cs
  let (identifier, cs) := readName (.char ';') cs
  let cs ← expect (";\n" : Text).toList cs
  return ((Text.ofList id, Text.ofList identifier), cs)

/-- As many statements of a kind as there are. -/
def readMany {α : Type} (statement : List Point → Option (α × List Point)) :
    Nat → List Point → List α × List Point
  | 0, cs => ([], cs)
  | fuel + 1, cs =>
    match statement cs with
    | none => ([], cs)
    | some (a, rest) =>
      let (as, rest) := readMany statement fuel rest
      (a :: as, rest)

/-- A statement on a line of its own. -/
def line (statement : Text) : List Point := statement.toList ++ [.char '\n']

/-- The empty line behind the imports, if there are any. -/
def gap (noImports : Bool) : List Point := if noImports then [] else [.char '\n']

/-- What stands in front of the cache entries. -/
def emptyCache : Text := "const cache = \x7b\x7d;"

/-- What stands between the cache and the table of rules. -/
def beforeTable : Text := "\n" ++ (resolverSource : Text) ++ "\n\n" ++ "const rules = "

/-- The statements behind the table of rules. -/
def closing : List Text :=
  [ "const config = \x7b rules: rules \x7d;",
    "const bundle = \x7b resolver: resolver, config: config \x7d;",
    "export \x7b resolver, config \x7d;",
    "export default bundle;" ]

/-- What stands behind the table of rules. -/
def afterTable : Text := ";" ++ "\n\n" ++ Text.intercalate "\n\n" closing ++ "\n"

/-- The table of rules, and the end of a module behind it. -/
def readTable (ps : List Point) : Option (List (Text × Json)) := do
  let cs ← Text.chars? ps
  match Json.Reader.value cs.length (2 * cs.length) cs with
  | .ok (.object rules, cs) => if cs.map .char = afterTable.toList then some rules else none
  | _ => none

/-- **What a module says**, if it is made of the statements of one. -/
def decode (source : Text) : Option Statements := do
  let cs := source.toList
  let (imports, cs) := readMany readImport cs.length cs
  let cs ← expect (gap imports.isEmpty) cs
  let cs ← expect (line emptyCache) cs
  let (cache, cs) := readMany readEntry cs.length cs
  let cs ← expect beforeTable.toList cs
  let rules ← readTable cs
  return { imports, cache, rules }

/-! ## Statements are read back -/

@[simp] theorem expect_append (word rest : List Point) :
    expect word (word ++ rest) = some rest := by
  rw [expect, if_pos (by simp), List.drop_left]

theorem readName_append {stop : Point} {name : List Point} (h : stop ∉ name) (rest : List Point) :
    readName stop (name ++ stop :: rest) = (name, stop :: rest) := by
  have hname : ∀ c ∈ name, decide (c ≠ stop) = true := by
    intro c hc
    rw [decide_eq_true_eq]
    rintro rfl
    exact h hc
  rw [readName, List.takeWhile_append_of_pos hname, List.dropWhile_append_of_pos hname]
  simp

theorem toList_identifier (n : ℕ) :
    (identifier n).toList = ("rule_".toList ++ decimalText n).map .char := by
  simp [identifier]

/-- The characters of an identifier are letters, digits and `_`. -/
theorem not_mem_identifier {c : Char} (hletter : c ∉ "rule_".toList) (hdigit : c.isDigit = false)
    (n : ℕ) : .char c ∉ (identifier n).toList := by
  rw [toList_identifier, List.mem_map_of_injective fun _ _ => Point.char.inj, List.mem_append,
    not_or]
  exact ⟨hletter, notMem_decimalText hdigit n⟩

/-- **An import is read back**, whatever its path is. -/
theorem readImport_line {record : ImportRecord} (h : .char ' ' ∉ record.identifier.toList)
    (rest : List Point) :
    readImport (line (importLine record) ++ rest)
      = some ((record.identifier, record.path), rest) := by
  have htext : line (importLine record) ++ rest
      = ("import " : Text).toList ++
        (record.identifier.toList ++ .char ' ' :: (("from '" : Text).toList
        ++ (record.path.toList.flatMap Quoted.escapePoint
          ++ .char '\'' :: ((";\n" : Text).toList ++ rest)))) := by
    simp [line, importLine, Quoted.literal, Quoted.encode]
  rw [htext, readImport, expect_append]
  simp only [Option.bind_eq_bind, Option.bind_some, readName_append h]
  rw [show .char ' ' :: (("from '" : Text).toList ++ _) = (" from '" : Text).toList ++ _ from rfl,
    expect_append, Option.bind_some, Quoted.characters_flatMap, Option.bind_some, expect_append]
  simp

/-- **A cache entry is read back**, whatever its canonical id is. -/
theorem readEntry_line {entry : Text × Text} (h : .char ';' ∉ entry.2.toList) (rest : List Point) :
    readEntry (line (cacheLine entry) ++ rest) = some (entry, rest) := by
  have htext : line (cacheLine entry) ++ rest
      = ("cache['" : Text).toList ++ (entry.1.toList.flatMap Quoted.escapePoint
        ++ .char '\'' ::
          (("] = " : Text).toList ++
            (entry.2.toList ++ .char ';' :: (("\n" : Text).toList ++ rest)))) := by
    simp [line, cacheLine, Quoted.literal, Quoted.encode]
  rw [htext, readEntry, expect_append]
  simp only [Option.bind_eq_bind, Option.bind_some, Quoted.characters_flatMap]
  rw [expect_append, Option.bind_some, readName_append h]
  simp only
  rw [show .char ';' :: (("\n" : Text).toList ++ rest) = (";\n" : Text).toList ++ rest from rfl,
    expect_append]
  simp

/-- **Statements of a kind are read back**, up to the first that is of another kind. -/
theorem readMany_flatMap {α β : Type} {statement : List Point → Option (α × List Point)}
    {text : β → List Point} {meaning : β → α} {items : List β} {rest : List Point}
    (hread : ∀ item ∈ items, ∀ rest, statement (text item ++ rest) = some (meaning item, rest))
    (hstop : statement rest = none) {fuel : ℕ} (hfuel : items.length ≤ fuel) :
    readMany statement fuel (items.flatMap text ++ rest) = (items.map meaning, rest) := by
  induction items generalizing fuel with
  | nil =>
    cases fuel with
    | zero => rfl
    | succ fuel => simp [readMany, hstop]
  | cons item items ih =>
    obtain ⟨fuel, rfl⟩ : ∃ n, fuel = n + 1 := ⟨fuel - 1, by simp at hfuel; omega⟩
    rw [List.flatMap_cons, List.append_assoc, readMany, hread item (List.mem_cons_self ..)]
    simp only [ih (fun item' h => hread item' (List.mem_cons_of_mem _ h))
      (by simpa using hfuel), List.map_cons]

/-! ## The text of a module -/

/-- The characters of a module, around the text of its rules. -/
def source (b : Bundle) (rules : Text) : List Point :=
  b.imports.flatMap (fun record => line (importLine record))
    ++ (gap b.imports.isEmpty
    ++ (line emptyCache
    ++ (b.cache.flatMap (fun entry => line (cacheLine entry))
    ++ (beforeTable.toList ++ (rules ++ afterTable : Text).toList))))

/-- Statements with line breaks in between, and one more behind them. -/
theorem toList_statements (statement : Text) (more : List Text) :
    (Text.intercalate "\n" (statement :: more) ++ "\n").toList =
    (statement :: more).flatMap line := by
  induction more generalizing statement with
  | nil => simp [Text.intercalate_singleton, line]
  | cons next more ih =>
    rw [Text.intercalate_cons_cons, List.flatMap_cons, ← ih]
    simp [line]

theorem statements_ne_empty {statement : Text} (h : statement ≠ "") (more : List Text) :
    Text.intercalate "\n" (statement :: more) ≠ "" := by
  cases more with
  | nil => simpa using h
  | cons next more => simp [h]

/-- The sections behind the imports. -/
def behindImports (b : Bundle) (rules : Text) : List Text :=
  Text.intercalate "\n" (emptyCache :: b.cache.map cacheLine) :: resolverSource
    :: ("const rules = " ++ rules ++ ";") :: closing

/-- None of them is empty. -/
theorem filter_behindImports (b : Bundle) (rules : Text) :
    (b.behindImports rules).filter (· ≠ Text.ofString "") = b.behindImports rules := by
  have hcache := statements_ne_empty (show emptyCache ≠ "" by decide +kernel)
      (b.cache.map cacheLine)
  have hresolver : (resolverSource : Text) ≠ "" := by decide +kernel
  have hrules : "const rules = " ++ rules ++ ";" ≠ "" := by simp
  have hclosing : ∀ s ∈ closing, s ≠ "" := by decide +kernel
  rw [List.filter_eq_self]
  intro s hs
  rw [decide_eq_true_eq]
  rcases List.mem_cons.1 hs with rfl | hs
  · exact hcache
  rcases List.mem_cons.1 hs with heq | hs
  · rw [heq]
    exact hresolver
  rcases List.mem_cons.1 hs with rfl | hs
  · exact hrules
  · exact hclosing s hs

theorem toList_behindImports (b : Bundle) (rules : Text) :
    (Text.intercalate "\n\n" (b.behindImports rules) ++ "\n").toList
      = line emptyCache ++ (b.cache.flatMap (fun entry => line (cacheLine entry))
        ++ (beforeTable.toList ++ (rules ++ afterTable : Text).toList)) := by
  have hcache := toList_statements emptyCache (b.cache.map cacheLine)
  rw [List.flatMap_cons, List.flatMap_map] at hcache
  have hclosing : closing ≠ [] := List.cons_ne_nil _ _
  have hbreak : ("\n\n" : Text) = "\n" ++ "\n" := by decide
  have htext : Text.intercalate "\n\n" (b.behindImports rules) ++ "\n"
      = Text.intercalate "\n" (emptyCache :: b.cache.map cacheLine) ++ "\n"
        ++ (beforeTable ++ (rules ++ afterTable)) := by
    rw [behindImports, beforeTable, afterTable]
    generalize closing = more at hclosing
    generalize Text.intercalate "\n" (emptyCache :: b.cache.map cacheLine) = cache
    simp only [Text.intercalate_cons_cons, Text.intercalate_cons_of_ne_nil hclosing, hbreak,
      Text.append_assoc]
  rw [htext, Text.toList_append, hcache, Text.toList_append, Text.toList_append,
    List.append_assoc]

/-- Without imports there is no section for them. -/
theorem toList_allSections (imports : List ImportRecord) {more : List Text}
    (hmore : more.filter (· ≠ Text.ofString "") = more) (hne : more ≠ []) :
    (Text.intercalate "\n\n"
      ((Text.intercalate "\n" (imports.map importLine) :: more).filter (· ≠ ""))
        ++ "\n").toList
      = imports.flatMap (fun record => line (importLine record))
        ++ (gap imports.isEmpty ++ (Text.intercalate "\n\n" more ++ "\n").toList) := by
  cases imports with
  | nil =>
    rw [List.map_nil, Text.intercalate_nil, List.filter_cons_of_neg (by simp), hmore]
    simp [gap]
  | cons record records =>
    have hline : importLine record ≠ "" := by
      simp [importLine]
    have hfirst := statements_ne_empty hline (records.map importLine)
    have hlines := toList_statements (importLine record) (records.map importLine)
    have hbreak : ("\n\n" : Text) = "\n" ++ "\n" := by decide
    rw [← List.map_cons, List.flatMap_map] at hlines
    rw [List.map_cons, List.filter_cons_of_pos (by simpa using hfirst), hmore, ← hlines,
      ← List.map_cons, Text.intercalate_cons_of_ne_nil hne]
    simp [hbreak, gap]

/-- **The text of a bundle**, whose rules have a JSON form. -/
theorem moduleText_eq {b : Bundle} {rules : Json}
    (h : Json.ofValue (.map b.rules.entries) = .ok rules)
    (indent : ℤ) :
    b.moduleText indent = .ok (Text.ofList (b.source (rules.render (some indent.toNat)))) := by
  have hsections : ∀ rules, b.sections rules
      = Text.intercalate "\n" (b.imports.map importLine) :: b.behindImports rules := fun _ => rfl
  rw [moduleText, h]
  simp only [hsections]
  rw [Except.ok.injEq, ← Text.toList_inj, Text.toList_ofList, source, ← toList_behindImports]
  have hne : b.behindImports (rules.render (some indent.toNat)) ≠ [] := List.cons_ne_nil _ _
  exact toList_allSections _ (filter_behindImports ..) hne

/-- The rules of a bundle have the table of their image. -/
theorem ofValue_entries {b : Bundle} {table : List (Text × Json)}
    (h : Json.imageEntries [] b.rules.entries = .ok table) :
    Json.ofValue (.map b.rules.entries) = .ok (.object table) := by
  rw [Json.ofValue, Json.image, h]
  rfl

/-! ## The text is read back -/

/-- A word is not there where another character is. -/
theorem expect_of_head {word cs : List Point} (hword : word ≠ []) (h : cs.head? ≠ word.head?) :
    expect word cs = none := by
  rw [expect, if_neg]
  rw [List.isPrefixOf_iff_prefix]
  rintro ⟨rest, rfl⟩
  rw [List.head?_append_of_ne_nil _ hword] at h
  exact h rfl

/-- What is no import. -/
theorem readImport_none {cs : List Point} (h : cs.head? ≠ some (.char 'i')) :
    readImport cs = none := by
  rw [readImport, expect_of_head (by decide) h]
  rfl

/-- What is no cache entry. -/
theorem readEntry_none {cs : List Point} (h : cs.head? ≠ some (.char 'c')) :
    readEntry cs = none := by
  rw [readEntry, expect_of_head (by decide) h]
  rfl

/-- Statements are no fewer than their characters. -/
theorem length_le_flatMap_line {α : Type} (items : List α) (text : α → Text) :
    items.length ≤ (items.flatMap fun item => line (text item)).length := by
  rw [List.length_flatMap]
  have h := List.length_le_sum_of_one_le (items.map fun item => (line (text item)).length)
    (by simp [line])
  simpa using h

theorem readMany_imports {imports : List ImportRecord}
    (h : ∀ record ∈ imports, .char ' ' ∉ record.identifier.toList) {rest : List Point}
    (hrest : rest.head? ≠ some (.char 'i')) {n : ℕ} (hn : imports.length ≤ n) :
    readMany readImport n (imports.flatMap (fun record => line (importLine record)) ++ rest)
      = (imports.map fun record => (record.identifier, record.path), rest) :=
  readMany_flatMap (fun record hrecord => readImport_line (h record hrecord))
    (readImport_none hrest) hn

theorem readMany_entries {entries : List (Text × Text)}
    (h : ∀ entry ∈ entries, .char ';' ∉ entry.2.toList) {rest : List Point}
    (hrest : rest.head? ≠ some (.char 'c')) {n : ℕ} (hn : entries.length ≤ n) :
    readMany readEntry n (entries.flatMap (fun entry => line (cacheLine entry)) ++ rest)
      = (entries, rest) := by
  have hread : readMany readEntry n (entries.flatMap (fun entry => line (cacheLine entry)) ++ rest)
      = (entries.map id, rest) :=
    readMany_flatMap (fun entry hentry => readEntry_line (h entry hentry))
      (readEntry_none hrest) hn
  rwa [List.map_id] at hread

/-- What stands behind the table is in characters, and ends its last number. -/
theorem exists_afterTable : ∃ cs : List Char, afterTable.toList = cs.map .char ∧
    Json.Reader.EndsNumber cs := by
  have hchars : (Text.chars? afterTable.toList).any (·.head? = some ';') = true := by decide +kernel
  obtain ⟨cs, hcs, hhead⟩ := (Option.any_eq_true _ _).1 hchars
  refine ⟨cs, Text.chars?_eq_some_iff.1 hcs, fun c hc => ?_⟩
  rw [of_decide_eq_true hhead] at hc
  obtain rfl := Option.some.inj hc
  decide

/-- **The table is read back** with its pairs joined, up to the statements behind it. -/
theorem readTable_render {table : List (Text × Json)} (h : (Json.object table).Readable)
    (indent : ℕ) :
    readTable (((Json.object table).render (some indent) : Text) ++ afterTable).toList
      = some (Json.pairedMembers table) := by
  obtain ⟨after, hafter, hends⟩ := exists_afterTable
  have htext : (((Json.object table).render (some indent) : Text) ++ afterTable).toList
      = (Json.print (some indent) 0 (.object table) ++ after).map .char := by
    rw [Text.toList_append, hafter, Text.toList_ofString, Json.render, String.toList_ofList,
      List.map_append]
  rw [readTable, htext, Text.chars?_map_char, Option.bind_eq_bind, Option.bind_some,
    List.length_append, Json.value_print _ _ _ h (by omega) (by omega) hends]
  exact if_pos hafter.symm

theorem head?_beforeTable (rest : List Point) :
    (beforeTable.toList ++ rest).head? = some (.char '\n') := by
  rw [beforeTable, Text.append_assoc, Text.append_assoc, Text.toList_append]
  rfl

/-- **The text of a module is read back**, whatever the texts in it are. -/
theorem decode_source {b : Bundle} {table : List (Text × Json)}
    (himports : ∀ record ∈ b.imports, .char ' ' ∉ record.identifier.toList)
    (hcache : ∀ entry ∈ b.cache, .char ';' ∉ entry.2.toList)
    (htable : (Json.object table).Readable) (indent : ℕ) :
    decode (Text.ofList (b.source ((Json.object table).render (some indent))))
      = some
        { imports := b.imports.map fun record => (record.identifier, record.path)
          cache := b.cache
          rules := Json.pairedMembers table } := by
  have hread := readTable_render htable indent
  generalize (Json.object table).render (some indent) = text at hread ⊢
  have hlength₁ := length_le_flatMap_line b.imports importLine
  have hlength₂ := length_le_flatMap_line b.cache cacheLine
  have hhead₁ : ∀ rest,
      (gap b.imports.isEmpty ++ (line emptyCache ++ rest)).head? ≠ some (.char 'i') := by
    intro rest
    rw [gap]
    split <;> simp [line, emptyCache]
  have hhead₂ : ∀ rest, (beforeTable.toList ++ rest).head? ≠ some (.char 'c') := by
    intro rest
    rw [head?_beforeTable]
    decide
  rw [decode, Text.toList_ofList, source]
  -- What the fixed words are does not matter from here on.
  generalize line emptyCache = opening at hhead₁ ⊢
  generalize beforeTable.toList = before at hhead₂ ⊢
  generalize ((text : Text) ++ afterTable).toList = behind at hread ⊢
  rw [readMany_imports himports (hhead₁ _) (by rw [List.length_append]; omega)]
  simp only [List.isEmpty_map, Option.bind_eq_bind]
  rw [expect_append, Option.bind_some, expect_append, Option.bind_some,
    readMany_entries hcache (hhead₂ _) (by rw [List.length_append]; omega)]
  simp only
  rw [expect_append, Option.bind_some, hread]
  rfl

/-! ## The bundles of runs -/

/-- A bundle that some run comes to, of rules whose ids are all texts. -/
def Produced (b : Bundle) : Prop :=
  ∃ (σ : Type) (loader : Loader σ) (rules : Ruleset) (session session' : Session σ),
    (∀ e ∈ rules.entries, ∃ id, e.1 = .str id) ∧
      (ofRules loader rules).runIn session = (.ok b, session')

/-- A member of the table for a rule: the id is its name, and the image of the value its data, which
are the value with its tuples as lists and its keys as texts. -/
structure Shows (rule : Value × Value) (member : Text × Json) : Prop where
  id : rule.1 = .str member.1
  image : Json.ofValue rule.2 = .ok member.2
  form : member.2.data = rule.2.jsonForm

theorem Shows.eq {id : Text} {v : Value} {j : Json} {member : Text × Json}
    (h : Shows (.str id, v) member) (hj : Json.ofValue v = .ok j) : member = (id, j) := by
  have hname : id = member.1 := Value.str.inj h.id
  have himage : j = member.2 := Except.ok.inj (hj.symm.trans h.image)
  rw [hname, himage]

/-- Rules with ids that are texts, and values that have a JSON form, have a table. -/
theorem exists_table {entries : List (Value × Value)} (hids : ∀ e ∈ entries, ∃ id, e.1 = .str id)
    (hshown : ∀ e ∈ entries, ∃ j, Json.ofValue e.2 = .ok j) :
    ∃ table, Json.imageEntries [] entries = .ok table ∧ List.Forall₂ Shows entries table := by
  induction entries with
  | nil => exact ⟨[], rfl, .nil⟩
  | cons e entries ih =>
    obtain ⟨k, v⟩ := e
    obtain ⟨id, hid⟩ := hids _ (List.mem_cons_self ..)
    obtain ⟨j, hj⟩ := hshown _ (List.mem_cons_self ..)
    obtain ⟨table, htable, hshows⟩ := ih (fun e he => hids e (List.mem_cons_of_mem _ he))
      (fun e he => hshown e (List.mem_cons_of_mem _ he))
    obtain rfl : k = .str id := hid
    refine ⟨(id, j) :: table, ?_, .cons ⟨rfl, hj, (Json.image_spec hj).1⟩ hshows⟩
    rw [Json.imageEntries, htable, show Json.image [] v = .ok j from hj]
    rfl

/-- A table shows rules in one form alone. -/
theorem forms_of_shows {entries : List (Value × Value)} {table : List (Text × Json)}
    (h : List.Forall₂ Shows entries table) :
    entries.map (fun e => (e.1, e.2.jsonForm)) = table.map fun m => (.str m.1, m.2.data) := by
  induction h with
  | nil => rfl
  | cons hm _ ih => rw [List.map_cons, List.map_cons, ih, hm.id, hm.form]

/-- The values in the table of a sound bundle have a JSON form. -/
theorem Sound.shown_table {entries : List (Value × Value)} {found : List (Value × RuleTarget)}
    {b : Bundle} (h : Sound entries found b) :
    ∀ e ∈ b.rules.entries, ∃ j, Json.ofValue e.2 = .ok j := by
  rw [h.table]
  exact List.forall_mem_map.2 h.shown

/-- What the module of a bundle says whose rules have this table: its imports, its cache, and the
table with the pairs of halves joined. -/
def statements (b : Bundle) (table : List (Text × Json)) : Statements where
  imports := b.imports.map fun record => (record.identifier, record.path)
  cache := b.cache
  rules := Json.pairedMembers table

/-- **The module of a sound bundle** says what the bundle does, if its rules have a table. -/
theorem Sound.decoded {entries : List (Value × Value)} {found : List (Value × RuleTarget)}
    {b : Bundle} (h : Sound entries found b) {table : List (Text × Json)}
    (htable : Json.imageEntries [] b.rules.entries = .ok table) (indent : ℤ) :
    ∃ text, b.moduleText indent = .ok text ∧ decode text = some (b.statements table) := by
  refine ⟨_, moduleText_eq (ofValue_entries htable) indent, ?_⟩
  refine decode_source ?_ ?_ (Json.image_spec (ofValue_entries htable)).2 _
  · intro record hrecord
    obtain ⟨n, hn⟩ := h.exists_identifier hrecord
    rw [hn]
    exact not_mem_identifier (by decide) (by decide) n
  · intro entry hentry
    rw [h.cached] at hentry
    obtain ⟨record, hrecord, rfl⟩ := List.mem_map.1 hentry
    obtain ⟨n, hn⟩ := h.exists_identifier hrecord
    rw [hn]
    exact not_mem_identifier (by decide) (by decide) n

/-- The rules of a bundle that is produced are shown by their image. -/
theorem Produced.exists_table {b : Bundle} (h : Produced b) :
    ∃ table, Json.imageEntries [] b.rules.entries = .ok table ∧
      List.Forall₂ Shows b.rules.entries table := by
  obtain ⟨σ, loader, rules, session, session', hids, hrun⟩ := h
  obtain ⟨found, -, hsound⟩ := ofRules_sound hrun
  refine Bundle.exists_table ?_ hsound.shown_table
  rw [hsound.table]
  exact List.forall_mem_map.2 hids

/-- A table that shows the rules is their image. -/
theorem imageEntries_of_shows {entries : List (Value × Value)} {table : List (Text × Json)}
    (h : List.Forall₂ Shows entries table) : Json.imageEntries [] entries = .ok table := by
  induction h with
  | nil => rfl
  | @cons e member entries table hm _ ih =>
    obtain ⟨k, v⟩ := e
    obtain rfl : k = .str member.1 := hm.id
    rw [Json.imageEntries, ih, show Json.image [] v = .ok member.2 from hm.image]
    rfl

/-- **The module of a bundle that is produced** says what the bundle does. -/
theorem Produced.decoded {b : Bundle} (h : Produced b) {table : List (Text × Json)}
    (hshows : List.Forall₂ Shows b.rules.entries table) (indent : ℤ) :
    ∃ text, b.moduleText indent = .ok text ∧ decode text = some (b.statements table) := by
  obtain ⟨σ, loader, rules, session, session', -, hrun⟩ := h
  obtain ⟨found, -, hsound⟩ := ofRules_sound hrun
  exact hsound.decoded (imageEntries_of_shows hshows) indent

/-- The cache of a bundle that is produced is what its imports say. -/
theorem Produced.cached {b : Bundle} (h : Produced b) :
    b.cache = b.imports.map fun record => (record.canonicalId, record.identifier) := by
  obtain ⟨σ, loader, rules, session, session', -, hrun⟩ := h
  obtain ⟨found, -, hsound⟩ := ofRules_sound hrun
  exact hsound.cached

/-- Imports are their statements and the canonical ids in the cache. -/
theorem imports_eq_of_statements {imports imports' : List ImportRecord}
    (hstatements : imports.map (fun record => (record.identifier, record.path))
      = imports'.map fun record => (record.identifier, record.path))
    (hcache : imports.map (fun record => (record.canonicalId, record.identifier))
      = imports'.map fun record => (record.canonicalId, record.identifier)) :
    imports = imports' := by
  induction imports generalizing imports' with
  | nil => exact (List.map_eq_nil_iff.1 hstatements.symm).symm
  | cons record imports ih =>
    cases imports' with
    | nil => cases hstatements
    | cons record' imports' =>
      simp only [List.map_cons, List.cons.injEq, Prod.mk.injEq] at hstatements hcache
      obtain ⟨⟨hidentifier, hpath⟩, hstatements⟩ := hstatements
      obtain ⟨⟨hcanonical, -⟩, hcache⟩ := hcache
      rw [ih hstatements hcache]
      cases record
      cases record'
      simp_all

/-- Bundles that say the same have the same imports and cache. -/
theorem Produced.eq_of_statements {b b' : Bundle} (h : Produced b) (h' : Produced b')
    {table table' : List (Text × Json)} (heq : b.statements table = b'.statements table') :
    b.imports = b'.imports ∧ b.cache = b'.cache ∧
      Json.pairedMembers table = Json.pairedMembers table' := by
  obtain ⟨himports, hcache, htable⟩ := Statements.mk.inj heq
  refine ⟨imports_eq_of_statements himports ?_, hcache, htable⟩
  rw [← h.cached, ← h'.cached, hcache]

/-- Imports, cache and the table with its pairs joined are all that shows in the text. -/
theorem moduleText_congr {b b' : Bundle} {table table' : List (Text × Json)}
    (hshows : List.Forall₂ Shows b.rules.entries table)
    (hshows' : List.Forall₂ Shows b'.rules.entries table') (himports : b.imports = b'.imports)
    (hcache : b.cache = b'.cache) (htable : Json.pairedMembers table = Json.pairedMembers table')
    (indent : ℤ) : b.moduleText indent = b'.moduleText indent := by
  have hprint : (Json.object table).render (some indent.toNat)
      = (Json.object table').render (some indent.toNat) := by
    rw [Json.render, Json.render, ← Json.print_paired _ _ (.object table), Json.paired, htable,
      ← Json.paired, Json.print_paired]
  rw [moduleText_eq (ofValue_entries (imageEntries_of_shows hshows)),
    moduleText_eq (ofValue_entries (imageEntries_of_shows hshows')), hprint, source, source,
    himports, hcache]

/-- **What the text of a module says of a bundle**, the rules of which have this table. -/
structure Determined (b : Bundle) (table : List (Text × Json)) : Prop where
  /-- At every indentation the text is decoded to the imports, the cache and the table with the
  pairs of halves joined. -/
  decoded : ∀ indent, ∃ text, b.moduleText indent = .ok text ∧ decode text = some
    { imports := b.imports.map fun record => (record.identifier, record.path)
      cache := b.cache
      rules := Json.pairedMembers table }
  /-- Where no half is followed by the second half of its pair, this is the table itself. -/
  exact : (∀ s ∈ Json.textsMembers table, s.Unpaired) → Json.pairedMembers table = table
  /-- Where two bundles have one text, at whatever indentations, they have the same imports and
  cache, and tables that differ in unjoined pairs alone. -/
  unique : ∀ b', Produced b' → ∀ table', List.Forall₂ Shows b'.rules.entries table' →
    ∀ indent indent', b.moduleText indent = b'.moduleText indent' →
      b.imports = b'.imports ∧ b.cache = b'.cache ∧
        Json.pairedMembers table = Json.pairedMembers table'
  /-- Two such bundles have one text at every indentation. -/
  complete : ∀ b', Produced b' → ∀ table', List.Forall₂ Shows b'.rules.entries table' →
    b.imports = b'.imports → b.cache = b'.cache →
      Json.pairedMembers table = Json.pairedMembers table' →
        ∀ indent, b.moduleText indent = b'.moduleText indent
  /-- Where there are no pairs in the tables, one text means the same rules but for tuples and
  keys. -/
  rules : (∀ s ∈ Json.textsMembers table, s.Unpaired) →
    ∀ b', Produced b' → ∀ table', List.Forall₂ Shows b'.rules.entries table' →
      (∀ s ∈ Json.textsMembers table', s.Unpaired) →
        ∀ indent indent', b.moduleText indent = b'.moduleText indent' →
          b.rules.entries.map (fun e => (e.1, e.2.jsonForm))
            = b'.rules.entries.map fun e => (e.1, e.2.jsonForm)

/-- **The text of a module determines the bundle** but for pairs of halves in the table, which JSON
does not tell from the character they make up. -/
theorem Produced.moduleText_determines {b : Bundle} (h : Produced b) :
    ∃ table, List.Forall₂ Shows b.rules.entries table ∧ b.Determined table := by
  obtain ⟨table, -, hshows⟩ := h.exists_table
  have hunique : ∀ b', Produced b' → ∀ table', List.Forall₂ Shows b'.rules.entries table' →
      ∀ indent indent', b.moduleText indent = b'.moduleText indent' →
        b.imports = b'.imports ∧ b.cache = b'.cache ∧
          Json.pairedMembers table = Json.pairedMembers table' := by
    intro b' h' table' hshows' indent indent' htext
    obtain ⟨text, hok, hmeans⟩ := h.decoded hshows indent
    obtain ⟨text', hok', hmeans'⟩ := h'.decoded hshows' indent'
    obtain rfl : text = text' := Except.ok.inj (hok.symm.trans (htext.trans hok'))
    exact h.eq_of_statements h' (Option.some.inj (hmeans.symm.trans hmeans'))
  refine ⟨table, hshows, h.decoded hshows, Json.pairedMembers_of_unpaired, hunique, ?_, ?_⟩
  · intro b' h' table' hshows' himports hcache htable indent
    exact moduleText_congr hshows hshows' himports hcache htable indent
  · intro hno b' h' table' hshows' hno' indent indent' htext
    obtain ⟨-, -, htable⟩ := hunique b' h' table' hshows' indent indent' htext
    rw [Json.pairedMembers_of_unpaired hno, Json.pairedMembers_of_unpaired hno'] at htable
    rw [forms_of_shows hshows, forms_of_shows hshows', htable]

/-- A rule that is on, and one that is off whose id is made to end a literal. -/
def quotingRules : Ruleset := .ofList
  [(.str "global", .tuple [.int 1, .map [(.int 1, .null)]]),
   (.str "';\nimport x from 'y", .str "off")]

/-- The id that is made to end a literal is decoded as a name in the table. -/
theorem moduleText_determines_quotingRules :
    ∃ b, Produced b ∧ ∃ text, b.moduleText 2 = .ok text ∧ decode text = some
      { imports := [("rule_0", "bpmnlint/rules/global")]
        cache := [("bpmnlint/global", "rule_0")]
        rules :=
          [("global", .array [.int 1, .object [("1", .null)]]),
           ("';\nimport x from 'y", .int 0)] } := by
  have hids : ∀ e ∈ quotingRules.entries, ∃ id, e.1 = .str id := by
    rw [show quotingRules.entries =
      [(.str "global", .tuple [.int 1, .map [(.int 1, .null)]]),
       (.str "';\nimport x from 'y", .str "off")] from rfl]
    simp
  have hproduced : Produced _ :=
    ⟨Unit, Loader.builtin none, quotingRules, Session.start (), _, hids, rfl⟩
  refine ⟨_, hproduced, ?_⟩
  obtain ⟨table, hshows, hdetermined⟩ := hproduced.moduleText_determines
  obtain ⟨text, hok, hmeans⟩ := hdetermined.decoded 2
  refine ⟨text, hok, hmeans.trans ?_⟩
  rcases hshows with _ | ⟨hon, _ | ⟨hoff, ⟨⟩⟩⟩
  have hname : (.ofChars (intText 1) : Text) = "1" := by decide
  have himage : Json.ofValue (.tuple [.int 1, .map [(.int 1, .null)]])
      = .ok (.array [.int 1, .object [("1", .null)]]) := by
    rw [← hname]
    rfl
  have hon : _ = (("global" : Text), Json.array [.int 1, .object [("1", .null)]]) := hon.eq himage
  have hoff : _ = (("';\nimport x from 'y" : Text), Json.int 0) := hoff.eq rfl
  rw [hon, hoff]
  rfl

/-- One rule that is off has a bundle without statements, whatever its id is. -/
theorem exists_produced_off (id : Text) : ∃ b, Produced b ∧ b.imports = [] ∧ b.cache = [] ∧
    List.Forall₂ Shows b.rules.entries [(id, .int 0)] := by
  have hids : ∀ e ∈ (Ruleset.ofList [(.str id, .str "off")]).entries, ∃ id, e.1 = .str id := by
    rw [show (Ruleset.ofList [(.str id, .str "off")]).entries = [(.str id, .str "off")] from rfl]
    simp
  have hproduced : Produced _ :=
    ⟨Unit, Loader.builtin none, .ofList [(.str id, .str "off")], Session.start (), _, hids, rfl⟩
  exact ⟨_, hproduced, rfl, rfl, .cons ⟨rfl, rfl, rfl⟩ .nil⟩

/-- **No decoder tells a character from its two halves**: as the id of a rule that is off, JSON
writes both alike. -/
theorem moduleText_joins_pairs :
    ¬ ∃ decoder : Text → Option Statements, ∀ b table, Produced b →
      List.Forall₂ Shows b.rules.entries table → ∀ indent text, b.moduleText indent = .ok text →
        decoder text = some
          { imports := b.imports.map fun record => (record.identifier, record.path)
            cache := b.cache
            rules := table } := by
  rintro ⟨decoder, hdecoder⟩
  obtain ⟨b, hb, himports, hcache, hshows⟩ := exists_produced_off "😀"
  obtain ⟨b', hb', himports', hcache', hshows'⟩ := exists_produced_off ⟨[.half 0x3d, .half 0x600]⟩
  have hpaired : ("😀" : Text).paired = Text.paired ⟨[.half 0x3d, .half 0x600]⟩ := by
    decide +kernel
  have htable : Json.pairedMembers [("😀", .int 0)]
      = Json.pairedMembers [(⟨[.half 0x3d, .half 0x600]⟩, .int 0)] := by
    simp only [Json.pairedMembers, hpaired]
  have hsame := moduleText_congr hshows hshows' (himports.trans himports'.symm)
    (hcache.trans hcache'.symm) htable 2
  obtain ⟨text, hok, -⟩ := hb.decoded hshows 2
  have hmeans := hdecoder b _ hb hshows 2 text hok
  have hmeans' := hdecoder b' _ hb' hshows' 2 text (hsame.symm.trans hok)
  have hrules := (Statements.mk.inj (Option.some.inj (hmeans.symm.trans hmeans'))).2.2
  have hids : ("😀" : Text) = ⟨[.half 0x3d, .half 0x600]⟩ :=
    (Prod.mk.inj (List.cons.inj hrules).1).1
  exact absurd hids (by decide)

end Bundle

end LintBundle
