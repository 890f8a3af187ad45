import CartridgeBank.Proofs.Toml.Numerals
import CartridgeBank.Proofs.Toml.Quoting
import Mathlib

namespace CartridgeBank.Toml

variable {c : Char} {cs rest : List Char} {n depth limit : Nat}

/-- What begins with neither a bracket nor a brace is no composed value. -/
theorem value?_eq_leaf? (noBracket : c ≠ '[') (noBrace : c ≠ '\x7b') (depth : Nat) :
    value? depth (c :: cs) = leaf? (c :: cs) := by
  unfold value?
  split
  · rename_i same
    exact absurd (List.cons_eq_cons.mp same).1 noBracket
  · rename_i same
    exact absurd (List.cons_eq_cons.mp same).1 noBrace
  · rfl

/-- Characters that are read as a value up to the end of their line. -/
structure Written (value : List Char) (node : Node) : Prop where
  visible : ∃ c more, value = c :: more ∧ isBlank c = false
  read : ∀ depth rest, value? depth (value ++ '\n' :: rest) = some (node, '\n' :: rest)

/-- A number that fits is read back from its digits. -/
theorem written_toDigits (fits : n ≤ maxInteger) : Written (Nat.toDigits 10 n) (.integer n) := by
  have read := scalar?_toDigits fits
  have scalars : ∀ c ∈ Nat.toDigits 10 n, isScalarChar c = true := fun c member =>
    isScalarChar_of_isDigit (Nat.isDigit_of_mem_toDigits (by decide) (by decide) member)
  obtain ⟨c, more, digits, first, _, _⟩ := toDigits_eq_cons n
  rw [digits] at read scalars ⊢
  refine ⟨⟨c, more, rfl, ?_⟩, fun depth rest => ?_⟩
  · rw [isBlank, beq_eq_false_iff_ne.mpr (ne_of_isDigit first rfl),
      beq_eq_false_iff_ne.mpr (ne_of_isDigit first rfl)]
    rfl
  · have noBracket : c ≠ '[' := ne_of_isDigit first rfl
    have noBrace : c ≠ '\x7b' := ne_of_isDigit first rfl
    have line := scalarChars_line scalars rest
    rw [List.cons_append] at line ⊢
    rw [value?_eq_leaf? noBracket noBrace, leaf?_of_isDigit first, line, read]
    rfl

/-- A text is read back from the form it is written in. -/
theorem written_writeText (text : List Char) :
    Written (writeText text) (.text (String.ofList text)) := by
  have read (rest : List Char) :
      text? (writeText text ++ '\n' :: rest) = some (text, '\n' :: rest) :=
    text?_writeText (by simp) (by simp) text
  obtain ⟨more, quoted | quoted⟩ := writeText_quoted text
  all_goals
    rw [quoted] at read ⊢
    refine ⟨⟨_, more, rfl, rfl⟩, fun depth rest => ?_⟩
    have line := read rest
    rw [List.cons_append] at line ⊢
    rw [value?_eq_leaf? (by decide) (by decide), leaf?, line]
    rfl

/-- Whether a key needs no quotes. -/
def IsBare (key : String) : Prop := key.toList ≠ [] ∧ key.toList.all isBareKeyChar = true

theorem skipBlanks_cons (visible : isBlank c = false) : skipBlanks (c :: cs) = c :: cs :=
  List.dropWhile_cons_of_neg (by rw [visible]; decide)

theorem not_isBlank_of_isBareKeyChar (bare : isBareKeyChar c = true) : isBlank c = false := by
  cases blank : isBlank c with
  | false => rfl
  | true =>
    simp only [isBlank, Bool.or_eq_true, beq_iff_eq] at blank
    rcases blank with rfl | rfl <;> cases bare

theorem IsBare.eq_cons {key : String} (bare : IsBare key) :
    ∃ c cs, key.toList = c :: cs ∧ isBareKeyChar c = true := by
  obtain ⟨nonempty, chars⟩ := bare
  obtain ⟨c, cs, split⟩ := List.exists_cons_of_ne_nil nonempty
  rw [split, List.all_cons, Bool.and_eq_true] at chars
  exact ⟨c, cs, split, chars.1⟩

/-- A bare key begins with no other character. -/
theorem IsBare.ne_cons {key : String} (bare : IsBare key) (other : isBareKeyChar c = false)
    (cs rest : List Char) : key.toList ++ cs ≠ c :: rest := by
  obtain ⟨d, ds, begins, first⟩ := bare.eq_cons
  rw [begins, List.cons_append]
  intro same
  rw [(List.cons_eq_cons.mp same).1, other] at first
  cases first

theorem keyPart?_bare {key : String} (bare : IsBare key) (stop : isBareKeyChar c = false) :
    keyPart? (key.toList ++ c :: cs) = some (key, c :: cs) := by
  have part : (key.toList ++ c :: cs).takeWhile isBareKeyChar = key.toList := by
    rw [List.takeWhile_append_of_pos (List.all_eq_true.mp bare.2),
      List.takeWhile_cons_of_neg (by rw [stop]; decide), List.append_nil]
  unfold keyPart?
  split
  · exact absurd ‹_› (bare.ne_cons rfl _ _)
  · exact absurd ‹_› (bare.ne_cons rfl _ _)
  · dsimp only
    rw [part, if_neg bare.1, String.ofList_toList, List.drop_left]

theorem key?_bare {key : String} (bare : IsBare key) (stop : isBareKeyChar c = false)
    (more : skipBlanks (c :: cs) = rest) (noDot : rest.head? ≠ some '.') :
    key? (key.toList ++ c :: cs) = some (⟨[], key⟩, rest) := by
  have skipped : skipBlanks (key.toList ++ c :: cs) = key.toList ++ c :: cs := by
    obtain ⟨d, ds, begins, first⟩ := bare.eq_cons
    rw [begins]
    exact skipBlanks_cons (not_isBlank_of_isBareKeyChar first)
  have parts : keyParts? (maxDepth - 1) (key.toList ++ c :: cs) = some ([key], rest) := by
    change keyParts? (maxDepth - 2 + 1) _ = _
    rw [keyParts?, skipped, keyPart?_bare bare stop, Option.bind_eq_bind, Option.bind_some]
    dsimp only
    rw [more]
    split
    · exact absurd rfl noDot
    · rfl
  rw [key?, parts]
  rfl

theorem statement?_writeHeader {key : String} (bare : IsBare key) (rest : List Char) :
    statement? (writeHeader key ++ rest) = some (.table ⟨[], key⟩, '\n' :: rest) := by
  have read : key? (key.toList ++ ']' :: '\n' :: rest) = some (⟨[], key⟩, ']' :: '\n' :: rest) :=
    key?_bare bare rfl rfl (by simp)
  have line : writeHeader key ++ rest = '[' :: (key.toList ++ ']' :: '\n' :: rest) := by
    simp [writeHeader]
  rw [line]
  unfold statement?
  split
  · exact absurd (List.cons_eq_cons.mp ‹_›).2 (bare.ne_cons rfl _ _)
  · rename_i same
    cases same
    rw [read]
    rfl
  · rename_i other
    exact absurd rfl (other _)

theorem statement?_writePair {key : String} {value : List Char} {node : Node} (bare : IsBare key)
    (written : Written value node) (rest : List Char) :
    statement? (writePair key value ++ rest) = some (.assign ⟨[], key⟩ node, '\n' :: rest) := by
  have read : key? (key.toList ++ ' ' :: '=' :: ' ' :: (value ++ '\n' :: rest)) =
      some (⟨[], key⟩, '=' :: ' ' :: (value ++ '\n' :: rest)) :=
    key?_bare bare rfl rfl (by simp)
  have line : writePair key value ++ rest =
      key.toList ++ ' ' :: '=' :: ' ' :: (value ++ '\n' :: rest) := by
    simp [writePair]
  have skipped : skipBlanks (' ' :: (value ++ '\n' :: rest)) = value ++ '\n' :: rest := by
    obtain ⟨c, more, begins, visible⟩ := written.visible
    rw [begins]
    exact skipBlanks_cons visible
  have whole : pair? (value? (maxDepth - 1))
      (key.toList ++ ' ' :: '=' :: ' ' :: (value ++ '\n' :: rest)) =
      some ((⟨[], key⟩, node), '\n' :: rest) := by
    rw [pair?, read]
    simp only [Option.bind_eq_bind, Option.bind_some, expect?, if_true, skipped, written.read,
      Option.pure_def]
  rw [line]
  unfold statement?
  split
  · exact absurd ‹_› (bare.ne_cons rfl _ _)
  · exact absurd ‹_› (bare.ne_cons rfl _ _)
  · rw [whole]
    rfl

/-- Characters that are read as statements, however many lines are allowed for. -/
def Reads (cs : List Char) (statements : List Statement) : Prop :=
  ∀ limit, cs.length < limit → statements? limit cs = some statements

namespace Reads

variable {key : String} {value : List Char} {node : Node} {statements : List Statement}

theorem nil : Reads [] [] := by
  intro limit enough
  cases limit with
  | zero => cases enough
  | succ limit => rfl

theorem blank (more : Reads rest statements) : Reads ('\n' :: rest) statements := by
  intro limit enough
  cases limit with
  | zero => cases enough
  | succ limit => exact more limit (by simpa using enough)

theorem line {first : Statement} (visible : isBlank c = false) (noComment : c ≠ '#')
    (noBreak : c ≠ '\n' ∧ c ≠ '\r') (read : statement? (c :: cs) = some (first, '\n' :: rest))
    (shorter : rest.length ≤ cs.length) (more : Reads rest statements) :
    Reads (c :: cs) (first :: statements) := by
  intro limit enough
  cases limit with
  | zero => cases enough
  | succ limit =>
    have noLine : ¬(c = '#' ∨ c = '\n' ∨ c = '\r') := by
      rintro (same | same | same)
      · exact noComment same
      · exact noBreak.1 same
      · exact noBreak.2 same
    have next := more limit (by rw [List.length_cons] at enough; omega)
    have ends : lineEnd? ('\n' :: rest) = some rest := rfl
    rw [statements?, skipBlanks_cons visible]
    dsimp only
    rw [if_neg noLine, read]
    simp only [Option.bind_eq_bind, Option.bind_some, ends, next, Option.pure_def]

theorem header (bare : IsBare key) (more : Reads rest statements) :
    Reads (writeHeader key ++ rest) (.table ⟨[], key⟩ :: statements) :=
  line rfl (by decide) (by decide) (statement?_writeHeader bare rest) (by simp; omega) more

theorem pair (bare : IsBare key) (written : Written value node) (more : Reads rest statements) :
    Reads (writePair key value ++ rest) (.assign ⟨[], key⟩ node :: statements) := by
  have read := statement?_writePair bare written rest
  obtain ⟨c, cs, begins, first⟩ := bare.eq_cons
  have line : writePair key value ++ rest =
      c :: (cs ++ ' ' :: '=' :: ' ' :: (value ++ '\n' :: rest)) := by
    simp [writePair, begins]
  rw [line] at read ⊢
  refine .line (not_isBlank_of_isBareKeyChar first) ?_ ?_ read (by simp; omega) more
  · rintro rfl
    cases first
  · constructor <;> rintro rfl <;> cases first

end Reads

/-- A document is what its lines are read as. -/
theorem document?_of_reads {statements : List Statement} (noMark : c ≠ '\uFEFF')
    (reads : Reads (c :: cs) statements) :
    document? (String.ofList (c :: cs)) = Node.ofStatements? statements := by
  unfold document?
  rw [String.toList_ofList]
  dsimp only
  split
  · rename_i same
    exact absurd (List.cons_eq_cons.mp same).1 noMark
  · rw [reads _ (Nat.lt_succ_self _), Option.bind_some]

/-- The statements of tables without tables in them. -/
def sectionStatements (sections : List (String × Entries)) : List Statement :=
  sections.flatMap fun (key, entries) =>
    .table ⟨[], key⟩ :: entries.map fun (key, value) => .assign ⟨[], key⟩ value

section Entries

variable {key : String} {node node' : Node} {entries inner : Entries} {path : List String}

theorem lookup_of_fresh (fresh : key ∉ entries.map Prod.fst) : entries.lookup key = none := by
  rw [List.lookup_eq_none_iff]
  intro entry member
  simpa using fun same : key = entry.1 => fresh (same ▸ List.mem_map_of_mem member)

theorem lookup_append_fresh (fresh : key ∉ entries.map Prod.fst) :
    (entries ++ [(key, node)]).lookup key = some node := by
  rw [List.lookup_append, lookup_of_fresh fresh]
  simp

theorem set_append_fresh (fresh : key ∉ entries.map Prod.fst) :
    Entries.set (entries ++ [(key, node)]) key node' = entries ++ [(key, node')] := by
  have kept :
      entries.map (fun entry => if entry.1 = key then (key, node') else entry) = entries := by
    refine (List.map_congr_left fun entry member => ?_).trans (List.map_id entries)
    rw [if_neg fun same : entry.1 = key => fresh (same ▸ List.mem_map_of_mem member)]
    rfl
  unfold Entries.set
  rw [List.map_append, kept]
  simp

theorem apply_table (fresh : key ∉ entries.map Prod.fst) :
    Statement.apply (path, entries) (.table ⟨[], key⟩) =
      some ([key], entries ++ [(key, .table .header [])]) := by
  simp [Statement.apply, Entries.within, Entries.beginTable, lookup_of_fresh fresh]

theorem apply_assign {name : String} (fresh : key ∉ entries.map Prod.fst)
    (new : name ∉ inner.map Prod.fst) :
    Statement.apply ([key], entries ++ [(key, .table .header inner)]) (.assign ⟨[], name⟩ node) =
      some ([key], entries ++ [(key, .table .header (inner ++ [(name, node)]))]) := by
  simp [Statement.apply, Entries.within, Entries.assign, lookup_append_fresh fresh,
    lookup_of_fresh new, set_append_fresh fresh]

/-- Keys of a section are added one by one. -/
theorem foldlM_assigns (fresh : key ∉ entries.map Prod.fst) (inner pairs : Entries)
    (distinct : ((inner ++ pairs).map Prod.fst).Nodup) :
    (pairs.map fun (name, value) => Statement.assign ⟨[], name⟩ value).foldlM Statement.apply
        ([key], entries ++ [(key, .table .header inner)]) =
      some ([key], entries ++ [(key, .table .header (inner ++ pairs))]) := by
  induction pairs generalizing inner with
  | nil => simp
  | cons pair pairs ih =>
    have shifted : inner ++ pair :: pairs = inner ++ [pair] ++ pairs := by simp
    have new : pair.1 ∉ inner.map Prod.fst := by
      rw [List.map_append, List.map_cons] at distinct
      exact fun member => (List.nodup_append.mp distinct).2.2 _ member _ List.mem_cons_self rfl
    rw [shifted] at distinct ⊢
    rw [List.map_cons, List.foldlM_cons, apply_assign fresh new, Option.bind_eq_bind,
      Option.bind_some]
    exact ih _ distinct

theorem foldlM_sections (path : List String) (entries : Entries)
    (sections : List (String × Entries))
    (distinct : (entries.map Prod.fst ++ sections.map Prod.fst).Nodup)
    (each : ∀ entries ∈ sections.map Prod.snd, (entries.map Prod.fst).Nodup) :
    ∃ last, (sectionStatements sections).foldlM Statement.apply (path, entries) =
      some (last, entries ++ sections.map fun (key, inner) => (key, .table .header inner)) := by
  induction sections generalizing path entries with
  | nil => exact ⟨path, by simp [sectionStatements]⟩
  | cons first sections ih =>
    obtain ⟨key, inner⟩ := first
    obtain ⟨names, others⟩ := List.forall_mem_cons.mp each
    have fresh : key ∉ entries.map Prod.fst := fun member =>
      (List.nodup_append.mp distinct).2.2 _ member _ List.mem_cons_self rfl
    obtain ⟨last, read⟩ := ih [key] (entries ++ [(key, .table .header inner)])
      (by simpa using distinct) others
    refine ⟨last, ?_⟩
    have split : sectionStatements ((key, inner) :: sections) =
        .table ⟨[], key⟩ :: (inner.map fun (name, value) => .assign ⟨[], name⟩ value) ++
          sectionStatements sections := rfl
    rw [split, List.foldlM_append, List.foldlM_cons, apply_table fresh, Option.bind_eq_bind,
      Option.bind_some, foldlM_assigns fresh [] inner (by simpa using names), Option.bind_some,
      List.nil_append, read]
    simp

end Entries

/-- Sections with distinct keys make up the table of their tables. -/
theorem ofStatements?_sections (sections : List (String × Entries))
    (distinct : (sections.map Prod.fst).Nodup)
    (each : ∀ entries ∈ sections.map Prod.snd, (entries.map Prod.fst).Nodup) :
    Node.ofStatements? (sectionStatements sections) =
      some (.table .header (sections.map fun (key, inner) => (key, .table .header inner))) := by
  obtain ⟨last, read⟩ := foldlM_sections [] [] sections distinct each
  rw [Node.ofStatements?, read]
  rfl

end CartridgeBank.Toml
