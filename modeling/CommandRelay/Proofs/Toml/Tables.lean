import CommandRelay.Proofs.Json.Given
import CommandRelay.Proofs.Toml.Statements

/-!
# What a printed document makes

Statements are taken one by one into a draft, whose tables are open along the path of the last
header.  A `Frame` is what lies around one open table, and a draft is at a place if its frames can
be put around the fields there (`Draft.At`).  The statements of a value lead from a table without a
field to the table with it (`leads_statementsUnder`), so those of a document lead to its tree
(`ofStatements?_eq_some`).
-/

namespace CommandRelay.Toml

/-! ## Fields -/

section

variable {fs : Fields} {k : String} {n : Node}

theorem find?_concat (fs : Fields) (k : String) (n : Node) (key : String) :
    Fields.find? (fs ++ [(k, n)]) key = (fs.find? key).or (if k = key then some n else none) :=
  (Json.field?_append fs [(k, n)] key).trans
    (congrArg (Option.or _) (Json.field?_cons k key n []))

theorem find?_concat_self (h : fs.find? k = none) : Fields.find? (fs ++ [(k, n)]) k = some n := by
  rw [find?_concat, h, if_pos rfl]
  rfl

/-- The last field is replaced if no field before it has its key. -/
theorem put_concat (h : fs.find? k = none) (n' : Node) :
    Fields.put (fs ++ [(k, n)]) k n' = fs ++ [(k, n')] := by
  have hkeys : ∀ f ∈ fs, f.1 ≠ k := by
    intro f hf
    have hnone := List.find?_eq_none.mp (Option.map_eq_none_iff.mp h) f hf
    exact fun heq => hnone (beq_iff_eq.mpr heq)
  rw [Fields.put, find?_concat_self h, if_pos Option.isSome_some, List.map_append]
  refine congrArg₂ (· ++ ·) ?_ ?_
  · refine (List.map_congr_left fun f hf => ?_).trans (List.map_id fs)
    exact if_neg (hkeys f hf)
  · exact congrArg (fun f => [f]) (if_pos rfl)

end

/-! ## The way to a table -/

/-- One step of the way from the document to a table: what stands in front of the table in the one
around it, its key there, and, if it is the last of a list of tables, the elements before it. -/
structure Frame where
  before : Fields
  key : String
  elements : Option (List Node) := none

/-- Where a frame leads to a table, the node under its key. -/
def Frame.wrap (f : Frame) (fs : Fields) : Node :=
  match f.elements with
  | none => .table false false fs
  | some ns => .tables (ns ++ [.table false false fs])

/-- The key of a frame is not in front of it. -/
def Frame.Fresh (f : Frame) : Prop := f.before.find? f.key = none

/-- The document in which frames lead to a table with the given fields. -/
def graft : List Frame → Fields → Fields
  | [], fs => fs
  | f :: frames, fs => f.before ++ [(f.key, f.wrap (graft frames fs))]

/-- The innermost table is grafted into the frame around it, and that into the others. -/
theorem graft_concat (frames : List Frame) (f : Frame) (fs : Fields) :
    graft (frames ++ [f]) fs = graft frames (f.before ++ [(f.key, f.wrap fs)]) := by
  induction frames with
  | nil => rfl
  | cons g frames ih => rw [List.cons_append, graft, ih, graft]

section

variable {frames : List Frame} {change : Fields → Option Fields} {fs fs' : Fields}

/-- What is changed under the keys of frames is the table that they lead to. -/
theorem within_graft (h : ∀ f ∈ frames, f.Fresh) :
    within change (frames.map (·.key)) (graft frames fs) = (change fs).map (graft frames) := by
  induction frames with
  | nil => exact Option.map_id'.symm
  | cons f frames ih =>
    obtain ⟨hf, hframes⟩ := List.forall_mem_cons.mp h
    obtain ⟨before, key, elements⟩ := f
    rw [List.map_cons, within, graft, find?_concat_self hf]
    cases elements with
    | none =>
      show (within change _ (graft frames fs)).map _ = _
      rw [ih hframes, Option.map_map]
      refine congrArg (Option.map · _) (funext fun fs => ?_)
      exact put_concat hf _
    | some ns =>
      dsimp only [Frame.wrap]
      rw [List.reverse_append]
      show (within change _ (graft frames fs)).map _ = _
      rw [ih hframes, Option.map_map]
      refine congrArg (Option.map · _) (funext fun fs => ?_)
      show Fields.put _ key (.tables (ns.reverse.reverse ++ _)) = _
      rw [List.reverse_reverse]
      exact put_concat hf _

/-- The fields that were grafted are found under the path of the frames. -/
theorem fieldsAt?_graft (h : ∀ f ∈ frames, f.Fresh) :
    fieldsAt? (frames.map (·.key)) (graft frames fs) = some fs := by
  induction frames with
  | nil => rfl
  | cons f frames ih =>
    obtain ⟨hf, hframes⟩ := List.forall_mem_cons.mp h
    obtain ⟨before, key, elements⟩ := f
    rw [List.map_cons, fieldsAt?, graft, find?_concat_self hf]
    cases elements with
    | none => exact ih hframes
    | some ns =>
      dsimp only [Frame.wrap]
      rw [List.getLast?_concat]
      exact ih hframes

end

/-! ## Statements -/

/-- The table that is open is the one that frames lead to, and it has the given fields so far. -/
structure Draft.At (frames : List Frame) (fs : Fields) (d : Draft) : Prop where
  fields : d.fields = fs
  close? : ∀ fs', Draft.close? { d with fields := fs' } = some (graft frames fs')

namespace Draft

variable {frames : List Frame} {fs : Fields} {d : Draft} {k : String}

/-- A draft that stands somewhere closes to the whole table. -/
theorem At.closes (h : At frames fs d) : d.close? = some (graft frames fs) := by
  rw [← h.fields]
  exact h.close? d.fields

/-- A pair with a new key is added where the draft stands. -/
theorem At.take?_pair (h : At frames fs d) (hk : fs.find? k = none) (n : Node) :
    ∃ d', d.take? (.pair [k] n) = some d' ∧ At frames (fs ++ [(k, n)]) d' := by
  refine ⟨{ d with fields := fs ++ [(k, n)] }, ?_, rfl, h.close?⟩
  have hadd : addPair n false false [k] d.fields = some (fs ++ [(k, n)]) := by
    rw [h.fields]
    exact if_neg (by rw [hk]; decide)
  rw [take?, hadd]
  rfl

/-- A header with a new key opens a table there. -/
theorem take?_header (hframes : ∀ f ∈ frames, f.Fresh) (hd : d.close? = some (graft frames fs))
    (hk : fs.find? k = none) :
    ∃ d', d.take? (.header (frames.map (·.key) ++ [k])) = some d' ∧
      At (frames ++ [⟨fs, k, none⟩]) [] d' := by
  refine ⟨{ root := graft frames fs, path := frames.map (·.key) ++ [k], fields := [] }, ?_, rfl,
    fun fs' => ?_⟩
  · rw [take?, hd]
    show openTable? (graft frames fs) _ = _
    rw [openTable?, List.getLast?_concat, List.dropLast_concat, fieldsAt?_graft hframes,
      within_graft hframes]
    dsimp only [bind, Option.bind]
    rw [hk]
    rfl
  · rw [Draft.close?, List.getLast?_concat, List.dropLast_concat, graft_concat]
    show within _ (frames.map (·.key)) (graft frames fs) = _
    rw [within_graft hframes]
    show Option.map _ (if (fs.find? k).isSome then _ else _) = _
    rw [hk]
    rfl

/-- An open element goes behind the elements that are there. -/
theorem at_element (hframes : ∀ f ∈ frames, f.Fresh) (hk : fs.find? k = none) (ns : List Node) :
    At (frames ++ [⟨fs, k, some ns⟩]) []
      { root := graft frames (fs ++ [(k, .tables ns)])
        path := frames.map (·.key) ++ [k]
        isElement := true
        fields := [] } := by
  refine ⟨rfl, fun fs' => ?_⟩
  rw [Draft.close?, List.getLast?_concat, List.dropLast_concat, graft_concat]
  show within _ (frames.map (·.key)) (graft frames _) = _
  rw [within_graft hframes]
  dsimp only
  rw [find?_concat_self hk]
  show some (graft frames (Fields.put _ k _)) = _
  rw [put_concat hk]
  rfl

/-- A further header of a list opens its next table. -/
theorem take?_next (hframes : ∀ f ∈ frames, f.Fresh) {ns : List Node}
    (hd : d.close? = some (graft frames (fs ++ [(k, .tables ns)]))) (hk : fs.find? k = none) :
    ∃ d', d.take? (.element (frames.map (·.key) ++ [k])) = some d' ∧
      At (frames ++ [⟨fs, k, some ns⟩]) [] d' := by
  refine ⟨_, ?_, at_element hframes hk ns⟩
  rw [take?, hd]
  show openElement? (graft frames _) _ = _
  rw [openElement?, List.getLast?_concat, List.dropLast_concat]
  show (within _ (frames.map (·.key)) (graft frames _)).bind _ = _
  rw [within_graft hframes, find?_concat_self hk]
  rfl

/-- The first element of a list is opened where its key is not there. -/
theorem take?_first (hframes : ∀ f ∈ frames, f.Fresh) (hd : d.close? = some (graft frames fs))
    (hk : fs.find? k = none) :
    ∃ d', d.take? (.element (frames.map (·.key) ++ [k])) = some d' ∧
      At (frames ++ [⟨fs, k, some []⟩]) [] d' := by
  refine ⟨_, ?_, at_element hframes hk []⟩
  rw [take?, hd]
  show openElement? (graft frames _) _ = _
  rw [openElement?, List.getLast?_concat, List.dropLast_concat]
  show (within _ (frames.map (·.key)) (graft frames _)).bind _ = _
  rw [within_graft hframes, hk]
  rfl

/-- From a draft that makes `fs` at the end of frames, statements lead to one that makes `fs'`
there. -/
def Leads (frames : List Frame) (sts : List Statement) (fs fs' : Fields) : Prop :=
  ∀ d : Draft, d.close? = some (graft frames fs) →
    ∃ d' : Draft, sts.foldlM take? d = some d' ∧ d'.close? = some (graft frames fs')

theorem leads_nil (frames : List Frame) (fs : Fields) : Leads frames [] fs fs :=
  fun d hd => ⟨d, rfl, hd⟩

theorem foldlM_take?_append {d₁ d₂ d₃ : Draft} {sts sts' : List Statement}
    (h : sts.foldlM take? d₁ = some d₂) (h' : sts'.foldlM take? d₂ = some d₃) :
    (sts ++ sts').foldlM take? d₁ = some d₃ := by
  rw [List.foldlM_append, h]
  exact h'

theorem foldlM_take?_cons {d₁ d₂ d₃ : Draft} {st : Statement} {sts : List Statement}
    (h : d₁.take? st = some d₂) (h' : sts.foldlM take? d₂ = some d₃) :
    (st :: sts).foldlM take? d₁ = some d₃ := by
  rw [List.foldlM_cons, h]
  exact h'

/-- Statements that lead on lead on one after the other. -/
theorem Leads.append {sts sts' : List Statement} {fs fs' fs'' : Fields}
    (h : Leads frames sts fs fs') (h' : Leads frames sts' fs' fs'') :
    Leads frames (sts ++ sts') fs fs'' := by
  intro d hd
  obtain ⟨d₁, hd₁, hclose₁⟩ := h d hd
  obtain ⟨d₂, hd₂, hclose₂⟩ := h' d₁ hclose₁
  exact ⟨d₂, foldlM_take?_append hd₁ hd₂, hclose₂⟩

end Draft

/-! ## Documents -/

section

open Draft

variable {frames : List Frame} {fs : Fields}

/-- The plain fields of a table. -/
def plainFields (fields : List (String × Toml)) : List (String × Toml) :=
  fields.filter fun f => !hasHeader f.2

/-- The fields of a table that get headers. -/
def headedFields (fields : List (String × Toml)) : List (String × Toml) :=
  fields.filter fun f => hasHeader f.2

theorem plainFields_cons (f : String × Toml) (fields : List (String × Toml)) :
    plainFields (f :: fields) =
      if hasHeader f.2 = true then plainFields fields else f :: plainFields fields := by
  rw [plainFields, List.filter_cons]
  cases hasHeader f.2 <;> rfl

theorem headedFields_cons (f : String × Toml) (fields : List (String × Toml)) :
    headedFields (f :: fields) =
      if hasHeader f.2 = true then f :: headedFields fields else headedFields fields :=
  List.filter_cons

/-- Where plain fields come first, fields are the plain ones and the others behind them. -/
theorem plainFields_append_headedFields {fields : List (String × Toml)}
    (h : fields.Pairwise fun f g => hasHeader f.2 = true → hasHeader g.2 = true) :
    plainFields fields ++ headedFields fields = fields := by
  induction fields with
  | nil => rfl
  | cons f fields ih =>
    obtain ⟨hf, hrest⟩ := List.pairwise_cons.mp h
    by_cases hheader : hasHeader f.2 = true
    · have hall : ∀ g ∈ f :: fields, hasHeader g.2 = true :=
        List.forall_mem_cons.mpr ⟨hheader, fun g hg => hf g hg hheader⟩
      have hplain : plainFields (f :: fields) = [] :=
        List.filter_eq_nil_iff.mpr fun g hg => by rw [hall g hg]; decide
      rw [hplain, headedFields, List.filter_eq_self.mpr hall, List.nil_append]
    · rw [plainFields_cons, headedFields_cons, if_neg hheader, if_neg hheader, List.cons_append,
        ih hrest]

theorem fieldNodes_eq_map (fields : List (String × Toml)) :
    fieldNodes fields = fields.map fun f => (f.1, node f.2) := by
  induction fields with
  | nil => rfl
  | cons f fields ih => rw [fieldNodes, ih, List.map_cons]

/-- The keys of fields are not there yet, and none comes twice. -/
def Unused (fs : Fields) (fields : List (String × Toml)) : Prop :=
  (∀ f ∈ fields, fs.find? f.1 = none) ∧ (fields.map (·.1)).Nodup

/-- A field that is added leaves the other keys unused. -/
theorem Unused.cons {f : String × Toml} {fields : List (String × Toml)}
    (h : Unused fs (f :: fields)) (n : Node) :
    fs.find? f.1 = none ∧ Unused (fs ++ [(f.1, n)]) fields := by
  obtain ⟨hnew, hnodup⟩ := h
  obtain ⟨hf, hfields⟩ := List.forall_mem_cons.mp hnew
  obtain ⟨hother, hrest⟩ := List.nodup_cons.mp hnodup
  refine ⟨hf, fun g hg => ?_, hrest⟩
  rw [find?_concat, hfields g hg, if_neg fun heq => hother (List.mem_map.mpr ⟨g, hg, heq.symm⟩)]
  rfl

/-- In an orderly table the plain fields do not use the keys of the others. -/
theorem unused_of_orderly {fields : List (String × Toml)} (h : Orderly (.table fields)) :
    Unused [] (plainFields fields) ∧
      Unused (fieldNodes (plainFields fields)) (headedFields fields) := by
  have hnodup := h.1
  rw [← plainFields_append_headedFields h.2.1, List.map_append, List.nodup_append] at hnodup
  obtain ⟨hplain, hheaded, hapart⟩ := hnodup
  refine ⟨⟨fun _ _ => rfl, hplain⟩, fun f hf => ?_, hheaded⟩
  refine Option.map_eq_none_iff.mpr (List.find?_eq_none.mpr fun g hg heq => ?_)
  rw [fieldNodes_eq_map] at hg
  obtain ⟨field, hfield, rfl⟩ := List.mem_map.mp hg
  exact hapart field.1 (List.mem_map.mpr ⟨field, hfield, rfl⟩) f.1
    (List.mem_map.mpr ⟨f, hf, rfl⟩) (beq_iff_eq.mp heq)

/-- The plain fields of a table are taken into the one that is open. -/
theorem Draft.At.plainStatements {d : Draft} {fields : List (String × Toml)} (h : d.At frames fs)
    (hunused : Unused fs (plainFields fields)) :
    ∃ d', (plainStatements fields).foldlM take? d = some d' ∧
      At frames (fs ++ fieldNodes (plainFields fields)) d' := by
  -- By induction along the fields: each plain one is taken into the table, and those with headers
  -- come later.
  induction fields generalizing fs d with
  | nil =>
    refine ⟨d, rfl, ?_⟩
    show At frames (fs ++ []) d
    rwa [List.append_nil]
  | cons f fields ih =>
    obtain ⟨k, v⟩ := f
    rw [plainFields_cons] at hunused ⊢
    rw [plainStatements]
    by_cases hheader : hasHeader v = true
    · rw [if_pos hheader] at hunused ⊢
      rw [if_pos hheader]
      exact ih h hunused
    · rw [if_neg hheader] at hunused ⊢
      rw [if_neg hheader]
      obtain ⟨hk, hrest⟩ := hunused.cons (node v)
      obtain ⟨d₁, hd₁, hat₁⟩ := h.take?_pair hk (node v)
      obtain ⟨d₂, hd₂, hat₂⟩ := ih hat₁ hrest
      refine ⟨d₂, foldlM_take?_cons hd₁ hd₂, ?_⟩
      rwa [List.append_assoc] at hat₂

/-- A statement that opens a table, and the lines of the table. -/
theorem leads_table {st : Statement} {f : Frame} {fields : List (String × Toml)}
    {tables : List Statement}
    (hopen : ∀ d : Draft, d.close? = some (graft frames fs) →
      ∃ d', d.take? st = some d' ∧ At (frames ++ [f]) [] d')
    (h : Orderly (.table fields))
    (htables : Leads (frames ++ [f]) tables (fieldNodes (plainFields fields))
      (fieldNodes (plainFields fields) ++ fieldNodes (headedFields fields))) :
    Leads frames (st :: plainStatements fields ++ tables) fs
      (f.before ++ [(f.key, f.wrap (fieldNodes fields))]) := by
  intro d hd
  obtain ⟨d₁, hd₁, hat₁⟩ := hopen d hd
  obtain ⟨d₂, hd₂, hat₂⟩ := hat₁.plainStatements (unused_of_orderly h).1
  obtain ⟨d₃, hd₃, hclose₃⟩ := htables d₂ hat₂.closes
  refine ⟨d₃, foldlM_take?_cons hd₁ (foldlM_take?_append hd₂ hd₃), ?_⟩
  rw [hclose₃, graft_concat, fieldNodes_eq_map, fieldNodes_eq_map, ← List.map_append,
    plainFields_append_headedFields h.2.1, ← fieldNodes_eq_map]

theorem fresh_concat {f : Frame} (hframes : ∀ g ∈ frames, g.Fresh) (hf : f.Fresh) :
    ∀ g ∈ frames ++ [f], g.Fresh :=
  List.forall_mem_append.mpr ⟨hframes, List.forall_mem_singleton.mpr hf⟩

mutual

/-- The lines under a header make the node of their value. -/
theorem leads_statementsUnder {frames : List Frame} {fs : Fields} {k : String}
    (hframes : ∀ f ∈ frames, f.Fresh) (hk : fs.find? k = none) : (v : Toml) → Orderly v →
    hasHeader v = true →
    Leads frames (statementsUnder (frames.map (·.key) ++ [k]) v) fs (fs ++ [(k, node v)])
  | .table fields, h, _ => by
    have htables :=
      leads_tableStatements (fresh_concat (f := ⟨fs, k, none⟩) hframes hk) fields h.2.2
      (unused_of_orderly h).2
    rw [List.map_append] at htables
    exact leads_table (fun d hd => take?_header hframes hd hk) h htables
  | .list [], _, hheader => by cases hheader
  | .list (.table fields :: items), h, _ => by
    have htables := leads_tableStatements (fresh_concat (f := ⟨fs, k, some []⟩) hframes hk) fields
      h.1.2.2 (unused_of_orderly h.1).2
    rw [List.map_append] at htables
    have hfirst := leads_table (fun d hd => take?_first hframes hd hk) h.1 htables
    exact hfirst.append (leads_elementStatements hframes hk items h.2 _)
  | .list (.list _ :: _), h, _ => h.elim
  | .list (.text _ :: _), h, _ => h.elim
  | .list (.int _ :: _), h, _ => h.elim
  | .list (.float :: _), h, _ => h.elim
  | .list (.bool _ :: _), h, _ => h.elim
  | .list (.date _ :: _), h, _ => h.elim
  | .text _, _, hheader => by cases hheader
  | .int _, _, hheader => by cases hheader
  | .float, _, hheader => by cases hheader
  | .bool _, _, hheader => by cases hheader
  | .date _, _, hheader => by cases hheader

/-- The lines of further elements of a list make the nodes of the elements. -/
theorem leads_elementStatements {frames : List Frame} {fs : Fields} {k : String}
    (hframes : ∀ f ∈ frames, f.Fresh) (hk : fs.find? k = none) : (items : List Toml) →
    OrderlyItems items → (ns : List Node) →
    Leads frames (elementStatements (frames.map (·.key) ++ [k]) items) (fs ++ [(k, .tables ns)])
      (fs ++ [(k, .tables (ns ++ itemNodes items))])
  | [], _, ns => by
    rw [itemNodes, List.append_nil]
    exact leads_nil _ _
  | .table fields :: items, h, ns => by
    have htables := leads_tableStatements (fresh_concat (f := ⟨fs, k, some ns⟩) hframes hk) fields
      h.1.2.2 (unused_of_orderly h.1).2
    rw [List.map_append] at htables
    have hnext := leads_table (fun d hd => take?_next hframes hd hk) h.1 htables
    have hrest := leads_elementStatements hframes hk items h.2
      (ns ++ [.table false false (fieldNodes fields)])
    rw [List.append_assoc] at hrest
    exact hnext.append hrest
  | .list _ :: _, h, _ => h.elim
  | .text _ :: _, h, _ => h.elim
  | .int _ :: _, h, _ => h.elim
  | .float :: _, h, _ => h.elim
  | .bool _ :: _, h, _ => h.elim
  | .date _ :: _, h, _ => h.elim

/-- The lines of the fields with headers make the nodes of these fields. -/
theorem leads_tableStatements {frames : List Frame} {fs : Fields}
    (hframes : ∀ f ∈ frames, f.Fresh) :
    (fields : List (String × Toml)) → OrderlyFields fields → Unused fs (headedFields fields) →
    Leads frames (tableStatements (frames.map (·.key)) fields) fs
      (fs ++ fieldNodes (headedFields fields))
  | [], _, _ => by
    show Leads frames [] fs (fs ++ [])
    rw [List.append_nil]
    exact leads_nil _ _
  | (k, v) :: fields, h, hunused => by
    rw [headedFields_cons] at hunused ⊢
    rw [tableStatements]
    by_cases hheader : hasHeader v = true
    · rw [if_pos hheader] at hunused ⊢
      rw [if_pos hheader]
      obtain ⟨hk, hrest⟩ := hunused.cons (node v)
      have hmore := leads_tableStatements hframes fields h.2 hrest
      rw [List.append_assoc] at hmore
      exact (leads_statementsUnder hframes hk v h.1 hheader).append hmore
    · rw [if_neg hheader] at hunused ⊢
      rw [if_neg hheader]
      exact leads_tableStatements hframes fields h.2 hunused

end

mutual

/-- The value of the node of a value is that value. -/
theorem value_node : (v : Toml) → (node v).value = v
  | .list [] => rfl
  | .list (v :: vs) => congrArg Toml.list (values_itemNodes (v :: vs))
  | .table fields => congrArg Toml.table (fieldValues_fieldNodes fields)
  | .text _ => rfl
  | .int _ => rfl
  | .float => rfl
  | .bool _ => rfl
  | .date _ => rfl

theorem values_itemNodes : (vs : List Toml) → Node.values (itemNodes vs) = vs
  | [] => rfl
  | v :: vs => congrArg₂ List.cons (value_node v) (values_itemNodes vs)

theorem fieldValues_fieldNodes : (fields : List (String × Toml)) →
    Node.fieldValues (fieldNodes fields) = fields
  | [] => rfl
  | (k, v) :: fields =>
    congrArg₂ List.cons (congrArg (Prod.mk k) (value_node v)) (fieldValues_fieldNodes fields)

end

/-- The statements of an orderly document make the document. -/
theorem ofStatements?_eq_some {fields : List (String × Toml)} (h : Orderly (.table fields)) :
    ofStatements? (plainStatements fields ++ tableStatements [] fields) = some (.table fields) := by
  have hempty : Draft.At [] [] {} := ⟨rfl, fun _ => rfl⟩
  obtain ⟨d₁, hd₁, hat₁⟩ := hempty.plainStatements (unused_of_orderly h).1
  have htables : Leads [] (tableStatements [] fields) _ _ :=
    leads_tableStatements (List.forall_mem_nil _) fields h.2.2 (unused_of_orderly h).2
  obtain ⟨d₂, hd₂, hclose₂⟩ := htables d₁ hat₁.closes
  have hroot : graft [] (fieldNodes (plainFields fields) ++ fieldNodes (headedFields fields)) =
      fieldNodes fields := by
    rw [graft, fieldNodes_eq_map, fieldNodes_eq_map, ← List.map_append,
      plainFields_append_headedFields h.2.1, ← fieldNodes_eq_map]
  rw [ofStatements?, foldlM_take?_append hd₁ hd₂]
  show d₂.close?.bind _ = _
  rw [hclose₂, hroot]
  show some (Toml.table (Node.fieldValues (fieldNodes fields))) = _
  rw [fieldValues_fieldNodes]

end

end CommandRelay.Toml
