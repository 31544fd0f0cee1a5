import CommandRelay.Proofs.Toml.Lines

/-!
# What a printed document says

A document is read into statements: pairs, and headers of tables and of elements of lists.  A
printed document is read into the statements of its tree (`statements?_render`), if the tree is
`Orderly`, as a tree that is printed has to be, and not deeper than the reader goes.  The parts of a
text that are read one after the other are read into their statements one after the other
(`Reads.append`).
-/

namespace CommandRelay.Toml

/-! ## Trees -/

mutual

/-- How deep tables lie in a value. -/
def depth : Toml → Nat
  | .table fields => fieldsDepth fields + 1
  | .list items => itemsDepth items
  | _ => 0

/-- How deep tables lie in the items of a list. -/
def itemsDepth : List Toml → Nat
  | [] => 0
  | v :: vs => max (depth v) (itemsDepth vs)

/-- How deep tables lie in the fields of a table. -/
def fieldsDepth : List (String × Toml) → Nat
  | [] => 0
  | (_, v) :: fields => max (depth v) (fieldsDepth fields)

end

mutual

/-- A value that can be written so that it is read back as it stands: its numbers are integers that
fit, its lists hold tables only, and each table gives a key once and gives its plain fields
first. -/
def Orderly : Toml → Prop
  | .text _ | .bool _ => True
  | .int n => Text.FitsSigned n
  | .float | .date _ => False
  | .list items => OrderlyItems items
  | .table fields => (fields.map (·.1)).Nodup ∧
      fields.Pairwise (fun f g => hasHeader f.2 = true → hasHeader g.2 = true) ∧
      OrderlyFields fields

/-- The items of a list are orderly tables. -/
def OrderlyItems : List Toml → Prop
  | [] => True
  | .table fields :: vs => Orderly (.table fields) ∧ OrderlyItems vs
  | _ :: _ => False

/-- The values of fields are orderly. -/
def OrderlyFields : List (String × Toml) → Prop
  | [] => True
  | (_, v) :: fields => Orderly v ∧ OrderlyFields fields

end

mutual

/-- The node that a value is built as. -/
def node : Toml → Node
  | .list [] => .list []
  | .list (v :: vs) => .tables (itemNodes (v :: vs))
  | .table fields => .table false false (fieldNodes fields)
  | v => .leaf v

/-- The nodes of the items of a list. -/
def itemNodes : List Toml → List Node
  | [] => []
  | v :: vs => node v :: itemNodes vs

/-- The nodes of the fields of a table. -/
def fieldNodes : List (String × Toml) → Fields
  | [] => []
  | (k, v) :: fields => (k, node v) :: fieldNodes fields

end

/-! ## Statements -/

/-- What the lines of the plain fields say. -/
def plainStatements : List (String × Toml) → List Statement
  | [] => []
  | (k, v) :: fields =>
    (if hasHeader v then [] else [.pair [k] (node v)]) ++ plainStatements fields

mutual

/-- What the lines of a value with a header say. -/
def statementsUnder (path : List String) : Toml → List Statement
  | .table fields => .header path :: plainStatements fields ++ tableStatements path fields
  | .list items => elementStatements path items
  | _ => []

/-- What the lines of the elements of a list of tables say. -/
def elementStatements (path : List String) : List Toml → List Statement
  | [] => []
  | .table fields :: items =>
    .element path :: plainStatements fields ++ tableStatements path fields ++
      elementStatements path items
  | _ :: items => elementStatements path items

/-- What the lines of those fields of a table say that get headers. -/
def tableStatements (path : List String) : List (String × Toml) → List Statement
  | [] => []
  | (k, v) :: fields =>
    (if hasHeader v then statementsUnder (path ++ [k]) v else []) ++ tableStatements path fields

end

/-- The lines `cs` are read as the statements `sts`, whatever lines follow. -/
def Reads (cs : List Char) (sts : List Statement) : Prop :=
  ∀ rest fuel, (cs ++ rest).length < fuel → ∃ fuel', rest.length < fuel' ∧
    statements? fuel (cs ++ rest) = (statements? fuel' rest).map (sts ++ ·)

theorem reads_nil : Reads [] [] := by
  intro rest fuel hfuel
  refine ⟨fuel, hfuel, ?_⟩
  show statements? fuel rest = (statements? fuel rest).map id
  rw [Option.map_id, id]

/-- What is read in two texts is read in both together. -/
theorem Reads.append {cs cs' : List Char} {sts sts' : List Statement} (h : Reads cs sts)
    (h' : Reads cs' sts') : Reads (cs ++ cs') (sts ++ sts') := by
  intro rest fuel hfuel
  rw [List.append_assoc] at hfuel ⊢
  obtain ⟨fuel', hfuel', heq⟩ := h _ _ hfuel
  obtain ⟨fuel'', hfuel'', heq'⟩ := h' _ _ hfuel'
  refine ⟨fuel'', hfuel'', ?_⟩
  rw [heq, heq', Option.map_map]
  exact congrArg (Option.map · _) (funext fun more => (List.append_assoc sts sts' more).symm)

theorem reads_emptyLine : Reads ['\n'] [] := by
  intro rest fuel hfuel
  obtain ⟨fuel, rfl⟩ := Nat.exists_eq_add_of_le' (Nat.one_le_of_lt hfuel)
  refine ⟨fuel, by simpa using hfuel, ?_⟩
  show statements? fuel rest = (statements? fuel rest).map id
  rw [Option.map_id, id]

/-- A line that begins with a quote or a bracket and says something. -/
theorem reads_line {cs : List Char} {st : Statement}
    (hfirst : cs.head? = some '\"' ∨ cs.head? = some '[')
    (h : ∀ rest, statement? (cs ++ rest) = some (st, rest)) : Reads cs [st] := by
  intro rest fuel hfuel
  obtain ⟨fuel, rfl⟩ := Nat.exists_eq_add_of_le' (Nat.one_le_of_lt hfuel)
  have hpos : 0 < cs.length := by
    cases cs with
    | nil => rcases hfirst with hfirst | hfirst <;> cases hfirst
    | cons c cs => exact Nat.succ_pos _
  refine ⟨fuel, ?_, ?_⟩
  · rw [List.length_append] at hfuel
    omega
  have hstep : statements? (fuel + 1) (cs ++ rest) =
      (statement? (cs ++ rest)).bind fun x => (statements? fuel x.2).bind fun more =>
        some (x.1 :: more) := by
    cases cs with
    | nil => cases hpos
    | cons c cs =>
      rcases hfirst with hfirst | hfirst <;> obtain rfl := Option.some.inj hfirst <;> rfl
  rw [hstep, h]
  show ((statements? fuel rest).bind fun more => some (st :: more)) = _
  cases statements? fuel rest <;> rfl

/-- The items of an orderly list under a header are tables. -/
theorem table_of_orderlyItems {vs : List Toml} (h : OrderlyItems vs) :
    ∀ v ∈ vs, ∃ fields, v = .table fields := by
  induction vs with
  | nil => exact List.forall_mem_nil _
  | cons v vs ih =>
    cases v with
    | table fields => exact List.forall_mem_cons.mpr ⟨⟨fields, rfl⟩, ih h.2⟩
    | _ => exact h.elim

/-- A list of tables that is not empty gets a header. -/
theorem hasHeader_of_orderlyItems {v : Toml} {vs : List Toml} (h : OrderlyItems (v :: vs)) :
    hasHeader (.list (v :: vs)) = true := by
  have htable := table_of_orderlyItems h
  obtain ⟨fields, rfl⟩ := htable v List.mem_cons_self
  refine List.all_eq_true.mpr fun u hu => ?_
  obtain ⟨fields', rfl⟩ := htable u hu
  rfl

/-- A scalar is a value that is no list and no table. -/
theorem value?_of_scalar? {c : Char} {cs rest : List Char} {v : Toml} (hc : c ≠ '[' ∧ c ≠ '\x7b')
    (h : scalar? (c :: cs) = some (v, rest)) (fuel room : Nat) :
    value? (fuel + 1) room (c :: cs) = some (.leaf v, rest) := by
  rw [value?]
  · rw [h]
    rfl
  · exact Nat.succ_ne_zero fuel
  · exact fun _ _ _ heq => hc.1 (List.cons.inj heq).1
  · exact fun _ _ _ heq => hc.2 (List.cons.inj heq).1

/-- A value on the line of its key is read as its node. -/
theorem value?_inline {v : Toml} (h : Orderly v) (hplain : hasHeader v = false) {fuel : Nat}
    (hfuel : 2 ≤ fuel) (rest : List Char) :
    value? fuel depthLimit (inline v ++ '\n' :: rest) = some (node v, '\n' :: rest) := by
  obtain ⟨fuel, rfl⟩ := Nat.exists_eq_add_of_le' hfuel
  -- One case for each kind of value that stands on a line; tables and lists with tables have
  -- headers.
  cases v with
  | text s =>
    have hscalar : scalar? (printText s ++ '\n' :: rest) = some (.text s, '\n' :: rest) := by
      show (text? (printText s ++ '\n' :: rest)).map _ = _
      rw [text?_printText]
      rfl
    exact value?_of_scalar? (by decide) hscalar (fuel + 1) depthLimit
  | int n =>
    obtain ⟨c, cs, hcons, hfirst⟩ := decimalInt_eq_cons n
    have hc : c ≠ '[' ∧ c ≠ '\x7b' := by
      constructor <;>
      · rintro rfl
        revert hfirst
        decide
    have hscalar := scalar?_decimalInt h rest
    show value? _ _ (Text.decimalInt n ++ _) = _
    rw [hcons] at hscalar ⊢
    exact value?_of_scalar? hc hscalar (fuel + 1) depthLimit
  | bool b =>
    cases b <;> exact value?_of_scalar? (by decide) rfl (fuel + 1) depthLimit
  | list items =>
    cases items with
    | nil => rfl
    | cons v vs =>
      rw [hasHeader_of_orderlyItems h] at hplain
      cases hplain
  | table fields => cases hplain
  | float => exact h.elim
  | date spelling => exact h.elim

/-- A value on the line of its key does not begin with a gap. -/
theorem skipGap_inline {v : Toml} (h : Orderly v) (hplain : hasHeader v = false)
    (rest : List Char) : skipGap (inline v ++ rest) = inline v ++ rest := by
  cases v with
  | text s =>
    show skipGap (printText s ++ rest) = printText s ++ rest
    rw [printText_append]
    exact skipGap_cons rfl _
  | int n =>
    obtain ⟨c, cs, hcons, hfirst⟩ := decimalInt_eq_cons n
    show skipGap (Text.decimalInt n ++ rest) = Text.decimalInt n ++ rest
    rw [hcons]
    refine skipGap_cons (Bool.eq_false_iff.mpr fun hgap => ?_) _
    rcases Bool.or_eq_true_iff.mp hgap with hc | hc
    · rw [beq_iff_eq.mp hc] at hfirst
      revert hfirst
      decide
    · rw [beq_iff_eq.mp hc] at hfirst
      revert hfirst
      decide
  | bool b => cases b <;> rfl
  | list items => rfl
  | table fields => cases hplain
  | float => exact h.elim
  | date spelling => exact h.elim

/-- The line of a plain field. -/
theorem reads_pair {v : Toml} (h : Orderly v) (hplain : hasHeader v = false) (k : String) :
    Reads (printText k ++ [' ', '=', ' '] ++ inline v ++ ['\n']) [.pair [k] (node v)] := by
  have hstep : ∀ cs, statement? ('\"' :: cs) = (key? ('\"' :: cs)).bind fun x =>
      (expect? '=' x.2).bind fun rest =>
        (value? (rest.length + 1) depthLimit (skipGap rest)).bind fun y =>
          (lineRest? y.2).bind fun rest => some (.pair x.1 y.1, rest) := fun _ => rfl
  refine reads_line (.inl rfl) fun rest => ?_
  have hline : printText k ++ [' ', '=', ' '] ++ inline v ++ ['\n'] ++ rest =
      printText k ++ ' ' :: '=' :: ' ' :: (inline v ++ '\n' :: rest) := by
    simp only [List.append_assoc, List.cons_append, List.nil_append]
  have hkey : key? (printText k ++ ' ' :: '=' :: ' ' :: (inline v ++ '\n' :: rest)) =
      some ([k], '=' :: ' ' :: (inline v ++ '\n' :: rest)) :=
    keyPath?_printPath (List.cons_ne_nil k []) (show 1 < 80 by decide) fun _ heq => by
      cases (List.cons.inj heq).1
  rw [hline, printText_append, hstep, ← printText_append, hkey]
  show ((value? ((' ' :: (inline v ++ '\n' :: rest)).length + 1) depthLimit
    (skipGap (inline v ++ '\n' :: rest))).bind fun y => _) = _
  rw [skipGap_inline h hplain, value?_inline h hplain (by simp)]
  rfl

/-- A path in brackets is read up to the bracket that closes it. -/
theorem key?_printPath {path : List String} (hne : path ≠ []) (h : path.length < depthLimit)
    (rest : List Char) : key? (printPath path ++ ']' :: rest) = some (path, ']' :: rest) :=
  keyPath?_printPath hne h fun _ heq => by cases (List.cons.inj heq).1

/-- A printed header is read back. -/
theorem reads_header {path : List String} (hne : path ≠ []) (h : path.length < depthLimit) :
    Reads ('[' :: printPath path ++ [']', '\n']) [.header path] := by
  have hstep : ∀ cs, statement? ('[' :: '\"' :: cs) = (key? ('\"' :: cs)).bind fun x =>
      (expect? ']' x.2).bind fun rest => (lineRest? rest).bind fun rest =>
        some (.header x.1, rest) := fun _ => rfl
  refine reads_line (.inr rfl) fun rest => ?_
  have hline : '[' :: printPath path ++ [']', '\n'] ++ rest =
      '[' :: (printPath path ++ ']' :: '\n' :: rest) := by
    simp only [List.append_assoc, List.cons_append, List.nil_append]
  obtain ⟨cs, hcons⟩ : ∃ cs, printPath path ++ ']' :: '\n' :: rest = '\"' :: cs := by
    cases path with
    | nil => exact absurd rfl hne
    | cons key path => cases path <;> exact ⟨_, rfl⟩
  have hkey := key?_printPath hne h ('\n' :: rest)
  rw [hcons] at hkey
  rw [hline, hcons, hstep, hkey]
  rfl

/-- A printed header of a list is read back. -/
theorem reads_element {path : List String} (hne : path ≠ []) (h : path.length < depthLimit) :
    Reads ('[' :: '[' :: printPath path ++ [']', ']', '\n']) [.element path] := by
  have hstep : ∀ cs, statement? ('[' :: '[' :: cs) = (key? cs).bind fun x =>
      (word? [']', ']'] x.2).bind fun rest => (lineRest? rest).bind fun rest =>
        some (.element x.1, rest) := fun _ => rfl
  refine reads_line (.inr rfl) fun rest => ?_
  have hline : '[' :: '[' :: printPath path ++ [']', ']', '\n'] ++ rest =
      '[' :: '[' :: (printPath path ++ ']' :: ']' :: '\n' :: rest) := by
    simp only [List.append_assoc, List.cons_append, List.nil_append]
  rw [hline, hstep, key?_printPath hne h]
  rfl

/-! ## Documents -/

/-- Printed plain lines are read as their pairs. -/
theorem reads_plainLines {fields : List (String × Toml)} (h : OrderlyFields fields) :
    Reads (plainLines fields) (plainStatements fields) := by
  induction fields with
  | nil => exact reads_nil
  | cons field fields ih =>
    obtain ⟨k, v⟩ := field
    rw [plainLines, plainStatements]
    refine .append ?_ (ih h.2)
    split
    · exact reads_nil
    · rename_i hplain
      exact reads_pair h.1 (Bool.eq_false_iff.mpr hplain) k

mutual

/-- The lines under a header are read; the header may not be too long. -/
theorem reads_printUnder {path : List String} (hne : path ≠ []) : (v : Toml) → Orderly v →
    path.length + depth v ≤ depthLimit → Reads (printUnder path v) (statementsUnder path v)
  | .table fields, h, hdepth => by
    rw [depth] at hdepth
    have hheader := reads_emptyLine.append (reads_header hne (by omega))
    have hplain := hheader.append (reads_plainLines h.2.2)
    exact hplain.append (reads_printTables path fields h.2.2 (by omega))
  | .list items, h, hdepth => reads_printElements hne items h hdepth
  | .text _, _, _ => reads_nil
  | .int _, _, _ => reads_nil
  | .float, _, _ => reads_nil
  | .bool _, _, _ => reads_nil
  | .date _, _, _ => reads_nil

/-- The lines of the elements of a list are read. -/
theorem reads_printElements {path : List String} (hne : path ≠ []) : (items : List Toml) →
    OrderlyItems items → path.length + itemsDepth items ≤ depthLimit →
    Reads (printElements path items) (elementStatements path items)
  | [], _, _ => reads_nil
  | .table fields :: items, h, hdepth => by
    rw [itemsDepth, depth] at hdepth
    have hheader := reads_emptyLine.append (reads_element hne (by omega))
    have hplain := hheader.append (reads_plainLines h.1.2.2)
    have htables := hplain.append (reads_printTables path fields h.1.2.2 (by omega))
    exact htables.append (reads_printElements hne items h.2 (by omega))
  | .list _ :: _, h, _ => h.elim
  | .text _ :: _, h, _ => h.elim
  | .int _ :: _, h, _ => h.elim
  | .float :: _, h, _ => h.elim
  | .bool _ :: _, h, _ => h.elim
  | .date _ :: _, h, _ => h.elim

/-- The lines of the fields with headers are read. -/
theorem reads_printTables (path : List String) : (fields : List (String × Toml)) →
    OrderlyFields fields → path.length + fieldsDepth fields < depthLimit →
    Reads (printTables path fields) (tableStatements path fields)
  | [], _, _ => reads_nil
  | (k, v) :: fields, h, hdepth => by
    rw [fieldsDepth] at hdepth
    rw [printTables, tableStatements]
    refine .append ?_ (reads_printTables path fields h.2 (by omega))
    have hlength : (path ++ [k]).length = path.length + 1 := List.length_append
    split
    · exact reads_printUnder (List.concat_ne_nil k path) v h.1 (by omega)
    · exact reads_nil

end

/-- The lines of a document are read as what they say. -/
theorem statements?_render {fields : List (String × Toml)} (h : OrderlyFields fields)
    (hdepth : fieldsDepth fields < depthLimit) {fuel : Nat}
    (hfuel : (render (.table fields)).toList.length < fuel) :
    statements? fuel (render (.table fields)).toList =
      some (plainStatements fields ++ tableStatements [] fields) := by
  have hreads := (reads_plainLines h).append
    (reads_printTables [] fields h (by rwa [List.length_nil, Nat.zero_add]))
  rw [render, String.toList_ofList] at hfuel ⊢
  obtain ⟨fuel', hfuel', heq⟩ := hreads [] fuel (by rwa [List.append_nil])
  rw [List.append_nil] at heq
  obtain ⟨fuel', rfl⟩ := Nat.exists_eq_add_of_le' (Nat.one_le_of_lt hfuel')
  rw [heq]
  show some (_ ++ []) = _
  rw [List.append_nil]

/-- What is read as statements does not begin with a byte order mark. -/
theorem ofText?_of_statements? {s : String} {sts : List Statement}
    (h : statements? (s.toList.length + 1) s.toList = some sts) :
    ofText? s = ofStatements? sts := by
  have hmark : ∀ rest, s.toList ≠ '\uFEFF' :: rest := by
    intro rest heq
    have hnone : ∀ fuel, statements? (fuel + 1) ('\uFEFF' :: rest) = none := fun _ => rfl
    rw [heq, hnone] at h
    cases h
  rw [ofText?]
  split
  · rename_i rest heq
    exact absurd heq (hmark rest)
  · rw [h]
    rfl

end CommandRelay.Toml
