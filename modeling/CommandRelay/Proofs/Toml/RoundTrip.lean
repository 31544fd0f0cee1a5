import CommandRelay.Proofs.Toml.Tables

/-!
# Documents are read as they are printed

The printer writes the plain fields of a table before the others.  So a document is read back with
its fields in this order (`ofText?_render`); deeper tables are orderly, which says that they have
this order already.
-/

namespace CommandRelay.Toml

variable {fields : List (String × Toml)}

theorem orderlyFields_iff : OrderlyFields fields ↔ ∀ f ∈ fields, Orderly f.2 := by
  induction fields with
  | nil => exact iff_of_true trivial (List.forall_mem_nil _)
  | cons f fields ih => rw [OrderlyFields, ih, List.forall_mem_cons]

theorem fieldsDepth_lt_iff {n : Nat} (hn : 0 < n) :
    fieldsDepth fields < n ↔ ∀ f ∈ fields, depth f.2 < n := by
  induction fields with
  | nil => exact iff_of_true hn (List.forall_mem_nil _)
  | cons f fields ih => rw [fieldsDepth, Nat.max_lt, ih, List.forall_mem_cons]

/-! ## The order of printed fields -/

/-- The fields of a table in the order in which they are printed. -/
def arranged (fields : List (String × Toml)) : List (String × Toml) :=
  plainFields fields ++ headedFields fields

/-- The arranged fields are the same ones in another order. -/
theorem arranged_perm (fields : List (String × Toml)) : (arranged fields).Perm fields := by
  have hperm := List.filter_append_perm (fun f : String × Toml => !hasHeader f.2) fields
  simp only [Bool.not_not] at hperm
  exact hperm

theorem hasHeader_of_mem_plainFields {f : String × Toml} (h : f ∈ plainFields fields) :
    hasHeader f.2 = false := by
  simpa using (List.mem_filter.mp h).2

theorem hasHeader_of_mem_headedFields {f : String × Toml} (h : f ∈ headedFields fields) :
    hasHeader f.2 = true :=
  (List.mem_filter.mp h).2

/-- Arranging keeps the plain fields in their order. -/
theorem plainFields_arranged (fields : List (String × Toml)) :
    plainFields (arranged fields) = plainFields fields := by
  have hplain : plainFields (plainFields fields) = plainFields fields :=
    List.filter_eq_self.mpr fun f hf => (List.mem_filter.mp hf).2
  have hheaded : plainFields (headedFields fields) = [] :=
    List.filter_eq_nil_iff.mpr fun f hf => by rw [hasHeader_of_mem_headedFields hf]; decide
  rw [arranged, plainFields, List.filter_append]
  exact (congrArg₂ (· ++ ·) hplain hheaded).trans (List.append_nil _)

/-- Arranging keeps the fields with headers in their order. -/
theorem headedFields_arranged (fields : List (String × Toml)) :
    headedFields (arranged fields) = headedFields fields := by
  have hplain : headedFields (plainFields fields) = [] :=
    List.filter_eq_nil_iff.mpr fun f hf => by rw [hasHeader_of_mem_plainFields hf]; decide
  have hheaded : headedFields (headedFields fields) = headedFields fields :=
    List.filter_eq_self.mpr fun f hf => (List.mem_filter.mp hf).2
  rw [arranged, headedFields, List.filter_append]
  exact (congrArg₂ (· ++ ·) hplain hheaded).trans (List.nil_append _)

theorem plainLines_eq_flatMap (fields : List (String × Toml)) :
    plainLines fields = (plainFields fields).flatMap fun f =>
      printText f.1 ++ [' ', '=', ' '] ++ inline f.2 ++ ['\n'] := by
  induction fields with
  | nil => rfl
  | cons f fields ih =>
    rw [plainLines, ih, plainFields_cons]
    by_cases hheader : hasHeader f.2 = true
    · rw [if_pos hheader, if_pos hheader, List.nil_append]
    · rw [if_neg hheader, if_neg hheader, List.flatMap_cons]

theorem printTables_eq_flatMap (path : List String) (fields : List (String × Toml)) :
    printTables path fields =
      (headedFields fields).flatMap fun f => printUnder (path ++ [f.1]) f.2 := by
  induction fields with
  | nil => rw [printTables]; rfl
  | cons f fields ih =>
    rw [printTables, ih, headedFields_cons]
    by_cases hheader : hasHeader f.2 = true
    · rw [if_pos hheader, if_pos hheader, List.flatMap_cons]
    · rw [if_neg hheader, if_neg hheader, List.nil_append]

/-- How plain and other fields are mixed does not show in the text. -/
theorem render_arranged (fields : List (String × Toml)) :
    render (.table (arranged fields)) = render (.table fields) := by
  rw [render, render, plainLines_eq_flatMap, plainLines_eq_flatMap, plainFields_arranged,
    printTables_eq_flatMap, printTables_eq_flatMap, headedFields_arranged]

/-- **Documents are read as they are printed.**  A document whose tables give each key once is read
back from its text, whatever characters its keys and texts hold, with its plain fields first. -/
theorem ofText?_render (hnodup : (fields.map (·.1)).Nodup) (h : ∀ f ∈ fields, Orderly f.2)
    (hdepth : ∀ f ∈ fields, depth f.2 < depthLimit) :
    ofText? (render (.table fields)) = some (.table (arranged fields)) := by
  have hperm := arranged_perm fields
  have hplainFirst : (arranged fields).Pairwise fun f g =>
      hasHeader f.2 = true → hasHeader g.2 = true := by
    refine List.pairwise_append.mpr ⟨?_, ?_, fun _ _ g hg _ => hasHeader_of_mem_headedFields hg⟩
    · refine List.pairwise_of_forall_mem_list fun f hf _ _ hheader => ?_
      rw [hasHeader_of_mem_plainFields hf] at hheader
      cases hheader
    · exact List.pairwise_of_forall_mem_list fun _ _ g hg _ => hasHeader_of_mem_headedFields hg
  have horderly : Orderly (.table (arranged fields)) :=
    ⟨(hperm.map _).nodup_iff.mpr hnodup, hplainFirst,
      orderlyFields_iff.mpr fun f hf => h f (hperm.mem_iff.mp hf)⟩
  have hfields : fieldsDepth (arranged fields) < depthLimit :=
    (fieldsDepth_lt_iff (by decide)).mpr fun f hf => hdepth f (hperm.mem_iff.mp hf)
  rw [← render_arranged, ofText?_of_statements?
    (statements?_render horderly.2.2 hfields (Nat.lt_succ_self _)), ofStatements?_eq_some horderly]

end CommandRelay.Toml
