import Lakehouse.Proofs.Partition.Packing

/-!
# How expressions are read

An expression is a text, and what it selects is decided by whoever reads it. The reader here knows
nothing of how expressions are written. It has the rule for literals (inside one, two quotes stand
for one and a single quote ends it), and it divides what is left at parentheses, at `AND` and at
`OR`.

- `scan`: the text as pieces, each literal being one. `Scans` says what a text comes to wherever it
  stands.
- `words`: the pieces divided at blanks and parentheses. A literal never divides.
- `readClause?`, `readPartition?`, `readExpression?`: the reader. `readExpression?_expressionFor`
  says that it finds the partitions that an expression was written for.
- `outline?`: a text with the contents of its literals blotted out.
- **`expressions_read_back`**: chunk by chunk, the expressions of packed predicates are read as the
  partitions that the predicates select. No value changes their outline, and no other partitions
  have the same expression.
-/

namespace Lakehouse

/-- The values that select a partition, with the names of their columns. -/
abbrev PartitionValues : Type := List (String × String)

/-- The quote that begins and ends a literal. -/
def quote : Char := Char.ofNat 39

/-! ## The reader -/

/-- What an expression is made of: characters outside of literals, and literals as wholes. -/
inductive Piece where
  | bare (c : Char)
  | literal (value : String)
  deriving DecidableEq, Repr

/-- Where a scan is, with what has been read of a literal. Behind a quote inside a literal it is
open whether the quote ends the literal or is the first of two. -/
inductive ScanState where
  | outside
  | inside (value : List Char)
  | behindQuote (value : List Char)

/-- The pieces of a text from some state on. A literal that is not ended is an error. -/
def scanFrom : ScanState → List Char → Option (List Piece)
  | .outside, [] => some []
  | .inside _, [] => none
  | .behindQuote value, [] => some [.literal (String.ofList value)]
  | .outside, c :: rest =>
    if c = quote then scanFrom (.inside []) rest else (scanFrom .outside rest).map (.bare c :: ·)
  | .inside value, c :: rest =>
    if c = quote then scanFrom (.behindQuote value) rest
    else scanFrom (.inside (value ++ [c])) rest
  | .behindQuote value, c :: rest =>
    if c = quote then scanFrom (.inside (value ++ [c])) rest
    else (scanFrom .outside rest).map fun ps => .literal (String.ofList value) :: .bare c :: ps

/-- The pieces of a text. -/
def scan (s : String) : Option (List Piece) :=
  scanFrom .outside s.toList

/-- The pieces of a text without quotes. -/
def bareText (s : String) : List Piece :=
  s.toList.map .bare

/-- The blank that divides words. -/
def blank : Piece := .bare ' '

/-- The pieces that are words by themselves. -/
def Piece.isParenthesis (p : Piece) : Bool :=
  p = .bare '(' || p = .bare ')'

/-- A parenthesis is set apart from what stands beside it. -/
def Piece.apart (p : Piece) : List Piece :=
  if p.isParenthesis then [blank, p, blank] else [p]

/-- The words that blanks and parentheses divide some pieces into, the parentheses among them. -/
def words (ps : List Piece) : List (List Piece) :=
  ((ps.flatMap Piece.apart).splitOn blank).filter fun w => !w.isEmpty

/-- What stands between the occurrences of a word, each part read by a rule. Without words there are
no parts. -/
def readBetween? {α : Type} (word : List Piece) (read : List (List Piece) → Option α)
    (ws : List (List Piece)) : Option (List α) :=
  if ws.isEmpty then some [] else (ws.splitOn word).mapM read

/-- The character of a piece that is one. -/
def Piece.char? : Piece → Option Char
  | .bare c => some c
  | .literal _ => none

/-- A clause is one word: a column, an equals sign and a literal. -/
def readClause? : List (List Piece) → Option (String × String)
  | [w] =>
    match w.splitOn (.bare '=') with
    | [column, [.literal value]] =>
      (column.mapM Piece.char?).map fun name => (String.ofList name, value)
    | _ => none
  | _ => none

/-- A partition is enclosed in parentheses, with `AND` between its clauses. -/
def readPartition? (ws : List (List Piece)) : Option PartitionValues :=
  if ws.head? = some (bareText "(") ∧ ws.getLast? = some (bareText ")") then
    readBetween? (bareText "AND") readClause? ws.tail.dropLast
  else none

/-- An expression has `OR` between its partitions. -/
def readExpression? (s : String) : Option (List PartitionValues) :=
  (scan s).bind fun ps => readBetween? (bareText "OR") readPartition? (words ps)

/-! ## Scanning -/

/-- A text scans to some pieces wherever it stands. Only a quote behind it could change what it is,
since it would go on with a literal at its end. -/
def Scans (s : String) (ps : List Piece) : Prop :=
  ∀ rest : List Char, rest.head? ≠ some quote →
    scanFrom .outside (s.toList ++ rest) = (scanFrom .outside rest).map (ps ++ ·)

/-- Characters that are no quotes are pieces, whatever follows. -/
theorem scanFrom_outside_append {cs : List Char} (h : quote ∉ cs) (rest : List Char) :
    scanFrom .outside (cs ++ rest) = (scanFrom .outside rest).map (cs.map .bare ++ ·) := by
  induction cs with
  | nil => simp
  | cons c cs ih =>
    obtain ⟨hc, hcs⟩ := not_or.1 (List.mem_cons.not.1 h)
    rw [List.cons_append, scanFrom, if_neg (Ne.symm hc), ih hcs, Option.map_map]
    rfl

/-- The characters of a literal, each quote being written twice. -/
def literalBody (cs : List Char) : List Char :=
  cs.flatMap fun c => if c = quote then [quote, quote] else [c]

theorem toList_sqlLiteral (value : String) :
    (sqlLiteral value).toList = quote :: (literalBody value.toList ++ [quote]) := by
  simp only [sqlLiteral, Text.replaceChar, String.toList_append, String.toList_ofList]
  rfl

/-- The characters of a literal are read back: a quote that was written twice is read as one. -/
theorem scanFrom_inside_append (done cs rest : List Char) :
    scanFrom (.inside done) (literalBody cs ++ rest) = scanFrom (.inside (done ++ cs)) rest := by
  induction cs generalizing done with
  | nil => simp [literalBody]
  | cons c cs ih =>
    have hnext := ih (done ++ [c])
    rw [List.append_assoc, List.singleton_append] at hnext
    rw [literalBody, List.flatMap_cons, ← literalBody, List.append_assoc, ← hnext]
    by_cases hc : c = quote
    · subst hc
      simp [scanFrom]
    · simp [scanFrom, hc]

/-- A literal ends at its last quote unless another one follows. -/
theorem scanFrom_behindQuote {value rest : List Char} (h : rest.head? ≠ some quote) :
    scanFrom (.behindQuote value) rest =
      (scanFrom .outside rest).map (.literal (String.ofList value) :: ·) := by
  cases rest with
  | nil => rfl
  | cons c rest =>
    have hc : c ≠ quote := fun hc => h (congrArg some hc)
    rw [scanFrom, scanFrom, if_neg hc, if_neg hc, Option.map_map]
    rfl

/-- A literal is one piece, whatever its value. -/
theorem scans_sqlLiteral (value : String) : Scans (sqlLiteral value) [.literal value] := by
  intro rest hrest
  rw [toList_sqlLiteral, List.cons_append, List.append_assoc, scanFrom, if_pos rfl,
    scanFrom_inside_append, List.singleton_append, scanFrom, if_pos rfl, List.nil_append,
    scanFrom_behindQuote hrest, String.ofList_toList]
  rfl

namespace Scans

variable {s t : String} {ps qs : List Piece}

theorem of_bare (h : quote ∉ s.toList) : Scans s (bareText s) :=
  fun rest _ => scanFrom_outside_append h rest

theorem bare_append (h : quote ∉ s.toList) (ht : Scans t qs) :
    Scans (s ++ t) (bareText s ++ qs) := by
  intro rest hrest
  rw [String.toList_append, List.append_assoc, scanFrom_outside_append h, ht rest hrest,
    Option.map_map]
  simp only [Function.comp_def, bareText, List.append_assoc]

theorem append (hs : Scans s ps) (ht : Scans t qs) (hhead : t.toList.head? ≠ some quote) :
    Scans (s ++ t) (ps ++ qs) := by
  intro rest hrest
  have hnext : (t.toList ++ rest).head? ≠ some quote := by
    rw [List.head?_append]
    cases h : t.toList.head? with
    | none => simpa using hrest
    | some c => simpa [h] using hhead
  rw [String.toList_append, List.append_assoc, hs _ hnext, ht rest hrest, Option.map_map]
  simp only [Function.comp_def, List.append_assoc]

/-- Texts that are joined scan piece by piece. -/
theorem joinWith {α : Type} {text : α → String} {pieces : α → List Piece} {separator : String}
    (hquote : quote ∉ separator.toList) (hne : separator ≠ "") (as : List α)
    (h : ∀ a ∈ as, Scans (text a) (pieces a)) :
    Scans (Text.joinWith separator (as.map text))
      ((bareText separator).intercalate (as.map pieces)) := by
  induction as with
  | nil => exact of_bare (by simp [Text.joinWith])
  | cons a rest ih =>
    cases rest with
    | nil => simpa [Text.joinWith] using h a List.mem_cons_self
    | cons b rest =>
      have hrest := ih fun c hc => h c (List.mem_cons_of_mem a hc)
      have hhead : (separator ++ Text.joinWith separator ((b :: rest).map text)).toList.head? ≠
          some quote := by
        obtain ⟨c, cs, hcs⟩ := List.exists_cons_of_ne_nil (mt String.toList_eq_nil_iff.1 hne)
        rw [String.toList_append, hcs]
        rintro hc
        exact hquote (hcs ▸ Option.some.inj hc ▸ List.mem_cons_self)
      have hall := (h a List.mem_cons_self).append (bare_append hquote hrest) hhead
      simpa only [List.map_cons, Text.joinWith, List.intercalate_cons_cons, List.append_assoc,
        String.append_assoc] using hall

/-- A text by itself is scanned to its pieces. -/
theorem scan_eq (h : Scans s ps) : scan s = some ps := by
  have hend := h [] (by simp)
  simpa [scanFrom, scan] using hend

end Scans

/-! ## Words -/

section

variable {ps qs : List Piece}

/-- A blank ends a word. -/
theorem words_append_blank (ps qs : List Piece) :
    words (ps ++ blank :: qs) = words ps ++ words qs := by
  have hblank : blank.apart = [blank] := by decide
  rw [words, List.flatMap_append, List.flatMap_cons, hblank, List.singleton_append,
    List.splitOn_append_cons_self, List.filter_append]
  rfl

/-- A parenthesis ends a word and is one. -/
theorem words_append_parenthesis {p : Piece} (hp : p.isParenthesis = true) (ps qs : List Piece) :
    words (ps ++ p :: qs) = words ps ++ [p] :: words qs := by
  have hapart : (p :: qs).flatMap Piece.apart =
      blank :: ([p] ++ blank :: qs.flatMap Piece.apart) := by
    rw [List.flatMap_cons, Piece.apart, if_pos hp]
    rfl
  have hword : ([p].splitOn blank).filter (fun w => !w.isEmpty) = [[p]] := by
    have hne : blank ∉ [p] := by
      rintro hmem
      cases List.mem_singleton.1 hmem ▸ hp
    rw [List.splitOn_eq_singleton hne]
    rfl
  rw [words, List.flatMap_append, hapart, List.splitOn_append_cons_self,
    List.splitOn_append_cons_self, List.filter_append, List.filter_append, hword]
  rfl

/-- A piece that divides nothing. -/
def Piece.IsInner (p : Piece) : Prop :=
  p ≠ blank ∧ p.isParenthesis = false

instance : DecidablePred Piece.IsInner := fun p =>
  inferInstanceAs (Decidable (p ≠ blank ∧ p.isParenthesis = false))

/-- Pieces that nothing divides are one word. -/
theorem words_of_inner (hne : ps ≠ []) (h : ∀ p ∈ ps, p.IsInner) : words ps = [ps] := by
  have hapart : ps.flatMap Piece.apart = ps := by
    have hsingle : ∀ p ∈ ps, p.apart = [p] := fun p hp => if_neg (by simp [(h p hp).2])
    rw [List.flatMap_congr hsingle, List.flatMap_singleton']
  have hblank : blank ∉ ps := fun hmem => (h blank hmem).1 rfl
  rw [words, hapart, List.splitOn_eq_singleton hblank]
  simp [hne]

/-- A word that stands between parts, with blanks around it, stands between their words. -/
theorem words_intercalate {w : List Piece} (hne : w ≠ []) (hw : ∀ p ∈ w, p.IsInner)
    (parts : List (List Piece)) :
    words ((blank :: (w ++ [blank])).intercalate parts) = [w].intercalate (parts.map words) := by
  induction parts with
  | nil => rfl
  | cons part rest ih =>
    cases rest with
    | nil => simp
    | cons next rest =>
      rw [List.intercalate_cons_cons, List.append_assoc, List.cons_append, words_append_blank,
        List.append_assoc, List.singleton_append, words_append_blank, ih, words_of_inner hne hw,
        List.map_cons, List.map_cons, List.map_cons, List.intercalate_cons_cons, List.append_assoc]

theorem mem_intercalate {α : Type} {a x : α} {parts : List (List α)}
    (h : x ∈ [a].intercalate parts) : x = a ∨ ∃ part ∈ parts, x ∈ part := by
  induction parts with
  | nil => simp at h
  | cons part rest ih =>
    cases rest with
    | nil => exact .inr ⟨part, by simp, by simpa using h⟩
    | cons next rest =>
      rw [List.intercalate_cons_cons, List.mem_append, List.mem_append, List.mem_singleton] at h
      rcases h with (h | h) | h
      · exact .inr ⟨part, List.mem_cons_self, h⟩
      · exact .inl h
      · obtain hx | ⟨q, hq, hx⟩ := ih h
        · exact .inl hx
        · exact .inr ⟨q, List.mem_cons_of_mem part hq, hx⟩

end

/-- What is written element by element is read element by element. -/
theorem mapM_map_eq_some {α β : Type} {read : β → Option α} {written : α → β} {as : List α}
    (h : ∀ a ∈ as, read (written a) = some a) : (as.map written).mapM read = some as := by
  induction as with
  | nil => rfl
  | cons a rest ih =>
    rw [List.map_cons, List.mapM_cons, h a List.mem_cons_self,
      ih fun b hb => h b (List.mem_cons_of_mem a hb)]
    rfl

/-- Parts that are read by themselves, and have something to be read, are read between words that
none of them has. -/
theorem readBetween?_intercalate {α : Type} {word : List Piece}
    {read : List (List Piece) → Option α} {written : α → List (List Piece)} {as : List α}
    (hread : ∀ a ∈ as, read (written a) = some a) (hne : ∀ a ∈ as, written a ≠ [])
    (hword : ∀ a ∈ as, word ∉ written a) :
    readBetween? word read ([word].intercalate (as.map written)) = some as := by
  cases as with
  | nil => rfl
  | cons a rest =>
    have hsplit : ([word].intercalate ((a :: rest).map written)).splitOn word =
        (a :: rest).map written :=
      List.splitOn_intercalate word (List.forall_mem_map.2 hword) (by simp)
    have hsome : ([word].intercalate ((a :: rest).map written)).isEmpty = false := by
      have hfirst := hne a List.mem_cons_self
      cases rest <;> simp [List.intercalate_cons_cons, hfirst]
    rw [readBetween?, hsome, hsplit]
    exact mapM_map_eq_some hread

/-! ## What is written -/

/-- A column whose name has nothing in it that a reader gives a meaning to. -/
def PlainColumn (name : String) : Prop :=
  ∀ c ∈ name.toList, c ≠ quote ∧ c ≠ '(' ∧ c ≠ ')' ∧ c ≠ '=' ∧ c ≠ ' '

-- by the characters of the name, where one by all characters may be found first
instance (name : String) : Decidable (PlainColumn name) :=
  decidable_of_iff
    (name.toList.all fun c => c ≠ quote ∧ c ≠ '(' ∧ c ≠ ')' ∧ c ≠ '=' ∧ c ≠ ' ')
    (by simp [PlainColumn])

/-- All columns of some partitions have plain names. -/
def PlainColumns (partitions : List PartitionValues) : Prop :=
  ∀ values ∈ partitions, ∀ v ∈ values, PlainColumn v.1

/-- The pieces of a clause. -/
def clausePieces (v : String × String) : List Piece :=
  bareText v.1 ++ [.bare '=', .literal v.2]

/-- The pieces of a partition's predicate. -/
def predicatePieces (values : PartitionValues) : List Piece :=
  bareText "(" ++ ((bareText " AND ").intercalate (values.map clausePieces) ++ bareText ")")

/-- The pieces of the expression for some partitions. -/
def expressionPieces (partitions : List PartitionValues) : List Piece :=
  (bareText " OR ").intercalate (partitions.map predicatePieces)

variable {v : String × String} {values : PartitionValues} {partitions : List PartitionValues}

theorem PlainColumn.quote_notMem {name : String} (h : PlainColumn name) : quote ∉ name.toList :=
  fun hmem => (h quote hmem).1 rfl

theorem scans_clause (h : PlainColumn v.1) :
    Scans (v.1 ++ "=" ++ sqlLiteral v.2) (clausePieces v) := by
  have hequals : Scans ("=" ++ sqlLiteral v.2) (bareText "=" ++ [.literal v.2]) :=
    .bare_append (by decide) (scans_sqlLiteral v.2)
  rw [String.append_assoc]
  exact .bare_append h.quote_notMem hequals

theorem scans_partitionPredicate (h : ∀ v ∈ values, PlainColumn v.1) :
    Scans (partitionPredicate values) (predicatePieces values) := by
  have hclauses := Scans.joinWith (show quote ∉ " AND ".toList by decide) (by decide) values
    fun v hv => scans_clause (h v hv)
  rw [partitionPredicate, String.append_assoc]
  exact .bare_append (by decide) (hclauses.append (.of_bare (by decide)) (by decide))

/-- The expression for some partitions, as chunks have it. -/
def expressionFor (partitions : List PartitionValues) : String :=
  PredicateChunk.expression ⟨partitions.map partitionPredicate⟩

theorem scan_expressionFor (h : PlainColumns partitions) :
    scan (expressionFor partitions) = some (expressionPieces partitions) :=
  (Scans.joinWith (by decide) (by decide) partitions
    fun values hvalues => scans_partitionPredicate (h values hvalues)).scan_eq

/-! ## What is read -/

theorem isInner_clausePieces (h : PlainColumn v.1) : ∀ p ∈ clausePieces v, p.IsInner := by
  intro p hp
  rcases List.mem_append.1 hp with hp | hp
  · obtain ⟨c, hc, rfl⟩ := List.mem_map.1 hp
    obtain ⟨-, hopen, hclose, -, hblank⟩ := h c hc
    simp [Piece.IsInner, Piece.isParenthesis, blank, hopen, hclose, hblank]
  · simp only [List.mem_cons, List.not_mem_nil, or_false] at hp
    rcases hp with rfl | rfl <;> simp [Piece.IsInner, Piece.isParenthesis, blank]

/-- A clause is one word. -/
theorem words_clausePieces (h : PlainColumn v.1) : words (clausePieces v) = [clausePieces v] :=
  words_of_inner (by simp [clausePieces]) (isInner_clausePieces h)

theorem readClause?_clausePieces (h : PlainColumn v.1) : readClause? [clausePieces v] = some v := by
  have hcolumn : .bare '=' ∉ bareText v.1 := by
    intro hmem
    obtain ⟨c, hc, hequals⟩ := List.mem_map.1 hmem
    exact (h c hc).2.2.2.1 (Piece.bare.inj hequals)
  have hsplit : (clausePieces v).splitOn (.bare '=') = [bareText v.1, [.literal v.2]] := by
    rw [clausePieces, List.splitOn_append_cons_self_of_not_mem hcolumn,
      List.splitOn_eq_singleton (by simp)]
  have hname : (bareText v.1).mapM Piece.char? = some v.1.toList :=
    mapM_map_eq_some fun c _ => rfl
  simp only [readClause?, hsplit, hname, Option.map_some, String.ofList_toList]

/-- The words of a predicate: its clauses, between parentheses. -/
theorem words_predicatePieces (h : ∀ v ∈ values, PlainColumn v.1) :
    words (predicatePieces values) =
      bareText "(" :: ([bareText "AND"].intercalate (values.map fun v => [clausePieces v]) ++
        [bareText ")"]) := by
  have hinner : words ((bareText " AND ").intercalate (values.map clausePieces)) =
      [bareText "AND"].intercalate (values.map fun v => [clausePieces v]) := by
    have hand : bareText " AND " = blank :: (bareText "AND" ++ [blank]) := by decide
    have hclauses : (values.map clausePieces).map words = values.map fun v => [clausePieces v] := by
      rw [List.map_map]
      exact List.map_congr_left fun v hv => words_clausePieces (h v hv)
    rw [hand, words_intercalate (by decide) (by decide), hclauses]
  have hopen := words_append_parenthesis (p := .bare '(') rfl []
    ((bareText " AND ").intercalate (values.map clausePieces) ++ bareText ")")
  have hclose := words_append_parenthesis (p := .bare ')') rfl
    ((bareText " AND ").intercalate (values.map clausePieces)) []
  rw [List.nil_append] at hopen
  rw [hinner] at hclose
  exact hopen.trans (congrArg (bareText "(" :: ·) hclose)

theorem readPartition?_predicatePieces (h : ∀ v ∈ values, PlainColumn v.1) :
    readPartition? (words (predicatePieces values)) = some values := by
  have hclauses : readBetween? (bareText "AND") readClause?
      ([bareText "AND"].intercalate (values.map fun v => [clausePieces v])) = some values := by
    refine readBetween?_intercalate (fun v hv => readClause?_clausePieces (h v hv)) (by simp) ?_
    -- a clause is not taken for the word between clauses, since it has an equals sign
    intro v _ hmem
    have hequals : .bare '=' ∈ bareText "AND" := by
      rw [List.mem_singleton.1 hmem, clausePieces]
      simp
    exact absurd hequals (by decide)
  have hparentheses (inner : List (List Piece)) :
      (bareText "(" :: (inner ++ [bareText ")"])).head? = some (bareText "(") ∧
        (bareText "(" :: (inner ++ [bareText ")"])).getLast? = some (bareText ")") := by
    rw [← List.cons_append]
    exact ⟨rfl, List.getLast?_concat⟩
  rw [words_predicatePieces h, readPartition?, if_pos (hparentheses _), List.tail_cons,
    List.dropLast_concat, hclauses]

/-- **Reading finds what was written**, whatever the values are. -/
theorem readExpression?_expressionFor (h : PlainColumns partitions) :
    readExpression? (expressionFor partitions) = some partitions := by
  have hor : bareText " OR " = blank :: (bareText "OR" ++ [blank]) := by decide
  rw [readExpression?, scan_expressionFor h, Option.bind_some, expressionPieces, hor,
    words_intercalate (by decide) (by decide), List.map_map]
  refine readBetween?_intercalate (fun values hv => readPartition?_predicatePieces (h values hv))
    (fun values hv => ?_) (fun values hv hmem => ?_)
  · rw [Function.comp_apply, words_predicatePieces (h values hv)]
    exact List.cons_ne_nil _ _
  · -- the words of a predicate are parentheses, the word between clauses, and clauses
    rw [Function.comp_apply, words_predicatePieces (h values hv), List.mem_cons, List.mem_append,
      List.mem_singleton] at hmem
    rcases hmem with hopen | hinner | hclose
    · exact absurd hopen (by decide)
    · rcases mem_intercalate hinner with hand | ⟨part, hpart, hmem⟩
      · exact absurd hand (by decide)
      · obtain ⟨v, -, rfl⟩ := List.mem_map.1 hpart
        have hequals : .bare '=' ∈ bareText "OR" := by
          rw [List.mem_singleton.1 hmem, clausePieces]
          simp
        exact absurd hequals (by decide)
    · exact absurd hclose (by decide)

/-! ## Outlines -/

/-- A piece without what a literal holds. -/
def Piece.blotted : Piece → Piece
  | .bare c => .bare c
  | .literal _ => .literal ""

/-- The outline of a text: its pieces, the contents of literals blotted out. -/
def outline? (s : String) : Option (List Piece) :=
  (scan s).map fun ps => ps.map Piece.blotted

/-- Partitions with empty values. -/
def emptied (partitions : List PartitionValues) : List PartitionValues :=
  partitions.map fun values => values.map fun v => (v.1, "")

theorem map_blotted_bareText (s : String) : (bareText s).map Piece.blotted = bareText s := by
  rw [bareText, List.map_map]
  rfl

theorem map_intercalate {α β : Type} (f : α → β) (separator : List α) (parts : List (List α)) :
    (separator.intercalate parts).map f =
      (separator.map f).intercalate (parts.map fun part => part.map f) := by
  induction parts with
  | nil => rfl
  | cons part rest ih =>
    cases rest with
    | nil => simp
    | cons next rest =>
      rw [List.intercalate_cons_cons, List.map_append, List.map_append, ih, List.map_cons,
        List.map_cons, List.map_cons, List.intercalate_cons_cons]

theorem map_blotted_clausePieces (v : String × String) :
    (clausePieces v).map Piece.blotted = clausePieces (v.1, "") := by
  rw [clausePieces, List.map_append, map_blotted_bareText]
  rfl

theorem map_blotted_predicatePieces (values : PartitionValues) :
    (predicatePieces values).map Piece.blotted =
      predicatePieces (values.map fun v => (v.1, "")) := by
  simp only [predicatePieces, List.map_append, map_blotted_bareText, map_intercalate, List.map_map,
    Function.comp_def, map_blotted_clausePieces]

/-- Blotting out the values leaves what would be written for empty ones. -/
theorem map_blotted_expressionPieces (partitions : List PartitionValues) :
    (expressionPieces partitions).map Piece.blotted = expressionPieces (emptied partitions) := by
  simp only [expressionPieces, emptied, map_blotted_bareText, map_intercalate, List.map_map,
    Function.comp_def, map_blotted_predicatePieces]

theorem outline?_expressionFor (h : PlainColumns partitions) :
    outline? (expressionFor partitions) = some (expressionPieces (emptied partitions)) := by
  rw [outline?, scan_expressionFor h, Option.map_some, map_blotted_expressionPieces]

/-- The columns of partitions. -/
def columnsOf (partitions : List PartitionValues) : List (List String) :=
  partitions.map fun values => values.map Prod.fst

theorem emptied_eq (partitions : List PartitionValues) :
    emptied partitions =
      (columnsOf partitions).map fun names => names.map fun name => (name, "") := by
  simp only [emptied, columnsOf, List.map_map, Function.comp_def]

theorem plainColumns_iff : PlainColumns partitions ↔
    ∀ names ∈ columnsOf partitions, ∀ name ∈ names, PlainColumn name := by
  simp only [PlainColumns, columnsOf, List.forall_mem_map]

/-! ## The theorem -/

/-- Chunks whose predicates are those of some partitions have the partitions in groups, one for each
chunk. -/
theorem exists_groups {chunks : List PredicateChunk}
    (h : chunks.flatMap PredicateChunk.predicates = partitions.map partitionPredicate) :
    ∃ groups : List (List PartitionValues), groups.flatten = partitions ∧
      chunks = groups.map fun group => ⟨group.map partitionPredicate⟩ := by
  induction chunks generalizing partitions with
  | nil => exact ⟨[], (List.map_eq_nil_iff.1 h.symm).symm, rfl⟩
  | cons c rest ih =>
    rw [List.flatMap_cons] at h
    obtain ⟨group, others, rfl, hgroup, hothers⟩ := List.map_eq_append_iff.1 h.symm
    obtain ⟨groups, rfl, rfl⟩ := ih hothers.symm
    refine ⟨group :: groups, rfl, ?_⟩
    rw [List.map_cons, hgroup]

/-- The expressions of chunks say which partitions they are for. -/
structure ReadsBack (partitions : List PartitionValues) (chunks : List PredicateChunk) : Prop where
  /-- Chunk after chunk, the partitions are read from the expressions: from each expression those
  whose predicates are in the chunk. -/
  recovered : ∃ groups, (chunks.mapM fun c => readExpression? c.expression) = some groups ∧
    groups.flatten = partitions ∧
    chunks = groups.map fun group => ⟨group.map partitionPredicate⟩
  /-- The outline of an expression depends on columns only, and not on values. -/
  outline : ∀ others, columnsOf others = columnsOf partitions →
    outline? (expressionFor others) = outline? (expressionFor partitions)
  /-- The expression is that of no other partitions. -/
  unique : ∀ others, PlainColumns others → expressionFor others = expressionFor partitions →
    others = partitions

/-- **The expressions of packed predicates are read as the partitions that the predicates select**,
whatever quotes, parentheses or words the values have in them. -/
theorem expressions_read_back {limit : Nat} {partitions : List PartitionValues}
    {chunks : List PredicateChunk} (hplain : PlainColumns partitions)
    (hpack : PredicateChunk.pack limit (partitions.map partitionPredicate) = .ok chunks) :
    ReadsBack partitions chunks := by
  refine ⟨?_, fun others hcolumns => ?_, fun others hothers hsame => ?_⟩
  · obtain ⟨groups, rfl, rfl⟩ := exists_groups (PredicateChunk.pack_eq_ok_iff.1 hpack).lossless
    refine ⟨groups, mapM_map_eq_some fun group hgroup => ?_, rfl, rfl⟩
    exact readExpression?_expressionFor fun values hvalues =>
      hplain values (List.mem_flatten.2 ⟨group, hgroup, hvalues⟩)
  · have hothers : PlainColumns others := by
      rw [plainColumns_iff, hcolumns, ← plainColumns_iff]
      exact hplain
    rw [outline?_expressionFor hothers, outline?_expressionFor hplain, emptied_eq, emptied_eq,
      hcolumns]
  · have hread := readExpression?_expressionFor hothers
    rw [hsame, readExpression?_expressionFor hplain] at hread
    exact (Option.some.inj hread).symm

/-- Partitions whose values look like parts of an expression, one of them without columns. -/
def misleadingPartitions : List PartitionValues :=
  [[("name", "o'brien' OR 'x'='x"), ("", ") OR (")], [], [("AND", "'' AND b='"), ("OR", "'")]]

/-- The chunks of their predicates under a limit of 60 characters. -/
def misleadingChunks : List PredicateChunk :=
  [⟨["(name='o''brien'' OR ''x''=''x' AND =') OR (')", "()"]⟩,
    ⟨["(AND=''''' AND b=''' AND OR='''')"]⟩]

/-- Misleading values are read as they are, from two chunks. -/
theorem expressions_read_back_misleading :
    PlainColumns misleadingPartitions ∧
      PredicateChunk.pack 60 (misleadingPartitions.map partitionPredicate) = .ok misleadingChunks ∧
      ReadsBack misleadingPartitions misleadingChunks := by
  have hplain : PlainColumns misleadingPartitions := by
    unfold PlainColumns misleadingPartitions
    decide
  have hpack : PredicateChunk.pack 60 (misleadingPartitions.map partitionPredicate) =
      .ok misleadingChunks := by decide
  exact ⟨hplain, hpack, expressions_read_back hplain hpack⟩

end Lakehouse
