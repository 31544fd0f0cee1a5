import CommandRelay.Envelope.Check
import CommandRelay.Proofs.Envelope.Acceptance
import CommandRelay.Proofs.Text.Utf8Order

/-!
# Which parameters are refused

The parameters of a read command are checked in the order of their names, and the check ends at the
first one that is refused.

1. `Admissible` says what a parameter may be and `Objection` why it is refused.  One of the two
   holds of every parameter (`checkField_eq_ok_iff`, `checkField_eq_error_iff`).
2. A check over fields in the order of their names fails with the fault of the smallest name that
   has one (`forM_eq_error_iff`).
3. What is read from a message does not depend on the order of its members (`paramsOf?_perm`).
4. Together: `smallest_refused_name_decides`.
-/

namespace CommandRelay.Json

/-! ## Names that occur once -/

section

variable {α : Type} {fields fields' : List (String × α)} {name : String} {value : α}

theorem Ascending.nodup (h : Ascending fields) : (fields.map (·.1)).Nodup :=
  List.pairwise_map.mpr (h.imp fun hlt => String.ne_of_lt hlt)

/-- Where no name occurs twice, the value of a name is the one that stands next to it. -/
theorem field?_eq_some_iff_mem (h : (fields.map (·.1)).Nodup) :
    field? fields name = some value ↔ (name, value) ∈ fields := by
  induction fields with
  | nil => exact iff_of_false (fun h => by cases h) List.not_mem_nil
  | cons field fields ih =>
    obtain ⟨key, first⟩ := field
    obtain ⟨hfresh, hrest⟩ := List.nodup_cons.mp h
    rw [field?_cons, List.mem_cons, Prod.mk.injEq]
    split
    · rename_i hkey
      subst hkey
      have hother : (key, value) ∉ fields := fun hmem => hfresh (List.mem_map.mpr ⟨_, hmem, rfl⟩)
      rw [or_iff_left hother, Option.some.injEq]
      exact ⟨fun h => ⟨rfl, h.symm⟩, fun h => h.2.symm⟩
    · rename_i hkey
      rw [ih hrest, or_iff_right fun h => hkey h.1.symm]

/-- The order in which fields are given does not matter if no name is given twice. -/
theorem mapping_perm (h : fields.Perm fields') (hnodup : (fields.map (·.1)).Nodup) :
    mapping fields = mapping fields' := by
  refine ascending_ext (ascending_mapping _) (ascending_mapping _) fun name => ?_
  have hreverse : (fields.reverse.map (·.1)).Nodup := by
    rw [List.map_reverse]
    exact List.nodup_reverse.mpr hnodup
  have hperm : fields.reverse.Perm fields'.reverse :=
    (List.reverse_perm fields).trans (h.trans (List.reverse_perm fields').symm)
  rw [field?_mapping, field?_mapping]
  refine Option.ext fun value => ?_
  rw [field?_eq_some_iff_mem hreverse,
    field?_eq_some_iff_mem ((hperm.map _).nodup_iff.mp hreverse), hperm.mem_iff]

/-- A check over fields in the order of their names fails with the fault of the smallest name that
has one. -/
theorem forM_eq_error_iff {ε : Type} {check : String × α → Except ε Unit} {e : ε}
    (h : Ascending fields) : fields.forM check = .error e ↔
      ∃ field ∈ fields, check field = .error e ∧
        ∀ other ∈ fields, other.1 < field.1 → check other = .ok () := by
  -- By induction along the fields: the first one with a fault ends the check, and its name is
  -- smaller than all behind it.
  induction fields with
  | nil => exact iff_of_false (fun h => by cases h) fun ⟨_, hmem, _⟩ => List.not_mem_nil hmem
  | cons first fields ih =>
    obtain ⟨hfirst, hrest⟩ := List.pairwise_cons.mp h
    show (check first >>= fun _ => fields.forM check) = _ ↔ _
    cases hcheck : check first with
    | error e' =>
      show Except.error e' = _ ↔ _
      rw [Except.error.injEq]
      constructor
      · rintro rfl
        refine ⟨first, List.mem_cons_self, hcheck, fun other hother hlt => ?_⟩
        rcases List.mem_cons.mp hother with rfl | hother
        · exact absurd hlt (String.lt_irrefl _)
        · exact absurd (String.lt_trans hlt (hfirst other hother)) (String.lt_irrefl _)
      · rintro ⟨field, hmem, hfield, hbefore⟩
        rcases List.mem_cons.mp hmem with rfl | hmem
        · exact Except.error.inj (hcheck.symm.trans hfield)
        · have hok := hbefore first List.mem_cons_self (hfirst field hmem)
          rw [hcheck] at hok
          cases hok
    | ok u =>
      show fields.forM check = _ ↔ _
      rw [ih hrest]
      constructor
      · rintro ⟨field, hmem, hfield, hbefore⟩
        refine ⟨field, List.mem_cons_of_mem _ hmem, hfield, List.forall_mem_cons.mpr ⟨?_, hbefore⟩⟩
        exact fun _ => hcheck
      · rintro ⟨field, hmem, hfield, hbefore⟩
        rcases List.mem_cons.mp hmem with rfl | hmem
        · rw [hcheck] at hfield
          cases hfield
        · exact ⟨field, hmem, hfield, (List.forall_mem_cons.mp hbefore).2⟩

/-- A check over fields succeeds if it does on each of them. -/
theorem forM_eq_ok_iff {ε : Type} {check : String × α → Except ε Unit} :
    fields.forM check = .ok () ↔ ∀ field ∈ fields, check field = .ok () := by
  induction fields with
  | nil => exact iff_of_true rfl (List.forall_mem_nil _)
  | cons first fields ih =>
    rw [List.forall_mem_cons, ← ih]
    show (check first >>= fun _ => fields.forM check) = _ ↔ _
    cases check first with
    | error e => exact iff_of_false (fun h => by cases h) fun h => by cases h.1
    | ok u => exact ⟨fun h => ⟨rfl, h⟩, fun h => h.2⟩

end

/-! ## Members in another order -/

variable {members members' : List (List TextUnit × Document)} {vs : List (String × Json)}

/-- The members of an object have values if the first has a name and a value and the others have
values. -/
theorem valueFields?_cons (member : List TextUnit × Document)
    (members : List (List TextUnit × Document)) :
    valueFields? (member :: members) =
      (unitText? member.1).bind fun key => member.2.value?.bind fun v =>
        (valueFields? members).map ((key, v) :: ·) := by
  obtain ⟨k, d⟩ := member
  rw [valueFields?]
  cases unitText? k with
  | none => rfl
  | some key =>
    cases d.value? with
    | none => rfl
    | some v => cases valueFields? members <;> rfl

/-- The members of an object have the same values in another order. -/
theorem valueFields?_perm (h : members.Perm members') (hvs : valueFields? members = some vs) :
    ∃ vs', valueFields? members' = some vs' ∧ vs.Perm vs' := by
  induction h generalizing vs with
  | nil => exact ⟨vs, hvs, .refl vs⟩
  | cons member _ ih =>
    simp only [valueFields?_cons, Option.bind_eq_some_iff, Option.map_eq_some_iff] at hvs ⊢
    obtain ⟨key, hkey, v, hv, rest, hrest, rfl⟩ := hvs
    obtain ⟨rest', hrest', hperm⟩ := ih hrest
    exact ⟨_, ⟨key, hkey, v, hv, rest', hrest', rfl⟩, hperm.cons _⟩
  | swap member member' members =>
    simp only [valueFields?_cons, Option.bind_eq_some_iff, Option.map_eq_some_iff] at hvs ⊢
    obtain ⟨key', hkey', v', hv', _, ⟨key, hkey, v, hv, rest, hrest, rfl⟩, rfl⟩ := hvs
    exact ⟨_, ⟨key, hkey, v, hv, _, ⟨key', hkey', v', hv', rest, hrest, rfl⟩, rfl⟩, .swap _ _ _⟩
  | trans _ _ ih ih' =>
    obtain ⟨between, hbetween, hperm⟩ := ih hvs
    obtain ⟨vs', hvs', hperm'⟩ := ih' hbetween
    exact ⟨vs', hvs', hperm.trans hperm'⟩

theorem map_unitText?_of_valueFields? (hvs : valueFields? members = some vs) :
    members.map (unitText? ·.1) = vs.map fun v => some v.1 := by
  induction members generalizing vs with
  | nil =>
    obtain rfl := Option.some.inj hvs
    rfl
  | cons member members ih =>
    simp only [valueFields?_cons, Option.bind_eq_some_iff, Option.map_eq_some_iff] at hvs
    obtain ⟨key, hkey, v, hv, rest, hrest, rfl⟩ := hvs
    rw [List.map_cons, List.map_cons, hkey, ih hrest]

end CommandRelay.Json

namespace CommandRelay.Params

open Json (Document TextUnit textUnits unitText?)
open Envelope (paramsOf?)

variable {p : Params} {name : String} {value : Json} {f : Fault}

/-- The members of an object, each name given once, are read alike in every order. -/
theorem paramsOf?_perm {members members' : List (List TextUnit × Document)}
    (h : members.Perm members') (hnodup : (members.map (unitText? ·.1)).Nodup)
    (hp : paramsOf? (.object members) = some p) : paramsOf? (.object members') = some p := by
  obtain ⟨hnull, -⟩ | ⟨_, vs, hd, hvs, hfields⟩ := Envelope.paramsOf?_cases hp
  · cases hnull
  cases hd
  obtain ⟨vs', hvs', hperm⟩ := Json.valueFields?_perm h hvs
  have hkeys : (vs.map (·.1)).Nodup := by
    rw [Json.map_unitText?_of_valueFields? hvs, ← Function.comp_def, ← List.map_map] at hnodup
    exact hnodup.of_map
  have hdepth : (Document.object members).depth < Json.maxDepth := by
    by_contra hdeep
    rw [paramsOf?, if_neg hdeep] at hp
    cases hp
  have hdepth' : (Document.object members').depth < Json.maxDepth := by
    rw [Document.depth] at hdepth ⊢
    have hle : Json.depthFields members' ≤ Json.depthFields members :=
      Json.depthFields_le_iff.mpr fun m hm =>
        Json.depthFields_le_iff.mp le_rfl m (h.mem_iff.mpr hm)
    omega
  rw [paramsOf?, if_pos hdepth']
  refine ofDocument?_eq_some ?_
  rw [hfields, Json.mapping_perm hperm hkeys]
  exact Option.map_eq_some_iff.mpr ⟨vs', hvs', rfl⟩

/-! ## One parameter -/

/-- A parameter that a read command may carry: its name has a visible character, and its value is a
text, for a reserved name one of `true` and `false`. -/
structure Admissible (name : String) (value : Json) : Prop where
  visible : ∃ c ∈ name.toList, Text.isBlank c = false
  text : ∃ s, value = .text s ∧ (name ∈ reserved → s = "true" ∨ s = "false")

/-- The reason why a parameter is refused: the first of a name that is blank, a value that is no
text, and a text that a reserved parameter may not have. -/
inductive Objection (name : String) (value : Json) : Fault → Prop
  | blank (hblank : ∀ c ∈ name.toList, Text.isBlank c = true) : Objection name value .blankParameter
  | notText (hvisible : ∃ c ∈ name.toList, Text.isBlank c = false) (hvalue : ∀ s, value ≠ .text s) :
      Objection name value (.parameterNotText name value)
  | reserved {s : String} (hvisible : ∃ c ∈ name.toList, Text.isBlank c = false)
      (hvalue : value = .text s) (hname : name ∈ reserved) (htrue : s ≠ "true")
      (hfalse : s ≠ "false") : Objection name value (.reservedParameter name s)

/-- Whatever is objected to a parameter is a fault of validation. -/
theorem kind_of_objection (h : Objection name value f) : f.kind = .validation := by
  cases h <;> rfl

theorem allBlank_eq_false_iff :
    Text.allBlank name = false ↔ ∃ c ∈ name.toList, Text.isBlank c = false := by
  rw [Text.allBlank, List.all_eq_false]
  exact ⟨fun ⟨c, hc, h⟩ => ⟨c, hc, Bool.eq_false_iff.mpr h⟩,
    fun ⟨c, hc, h⟩ => ⟨c, hc, Bool.eq_false_iff.mp h⟩⟩

/-- A parameter passes its check exactly if it is admissible. -/
theorem checkField_eq_ok_iff : checkField name value = .ok () ↔ Admissible name value := by
  rw [checkField]
  split
  · rename_i hblank
    refine iff_of_false (fun h => by cases h) fun h => ?_
    rw [allBlank_eq_false_iff.mpr h.visible] at hblank
    cases hblank
  rename_i hvisible
  have hvisible := allBlank_eq_false_iff.mp (Bool.eq_false_iff.mpr hvisible)
  cases value with
  | text s =>
    show (if _ then _ else _) = _ ↔ _
    split
    · rename_i hbad
      refine iff_of_false (fun h => by cases h) fun h => ?_
      obtain ⟨_, hs, hallowed⟩ := h.text
      obtain rfl := Json.text.inj hs
      exact (hallowed hbad.1).elim hbad.2.1 hbad.2.2
    · rename_i hgood
      refine iff_of_true rfl ⟨hvisible, s, rfl, fun hname => ?_⟩
      by_contra hneither
      exact hgood ⟨hname, not_or.mp hneither⟩
  | _ =>
    refine iff_of_false (fun h => by cases h) fun h => ?_
    obtain ⟨_, htext, -⟩ := h.text
    cases htext

/-- A parameter fails its check with the objection to it. -/
theorem checkField_eq_error_iff : checkField name value = .error f ↔ Objection name value f := by
  rw [checkField]
  constructor
  · intro h
    split at h
    · rename_i hblank
      obtain rfl := Except.error.inj h
      exact .blank (List.all_eq_true.mp hblank)
    rename_i hvisible
    have hvisible := allBlank_eq_false_iff.mp (Bool.eq_false_iff.mpr hvisible)
    cases value with
    | text s =>
      replace h : (if _ then _ else _) = _ := h
      split at h
      · rename_i hbad
        obtain rfl := Except.error.inj h
        exact .reserved hvisible rfl hbad.1 hbad.2.1 hbad.2.2
      · cases h
    | _ =>
      obtain rfl := Except.error.inj h
      exact .notText hvisible fun _ htext => by cases htext
  · -- Each objection excludes the ones that are looked for before it.
    intro h
    cases h with
    | blank hblank => exact if_pos (List.all_eq_true.mpr hblank)
    | notText hvisible hvalue =>
      rw [if_neg (Bool.eq_false_iff.mp (allBlank_eq_false_iff.mpr hvisible))]
      cases value with
      | text s => exact absurd rfl (hvalue s)
      | _ => rfl
    | reserved hvisible hvalue hname htrue hfalse =>
      rw [if_neg (Bool.eq_false_iff.mp (allBlank_eq_false_iff.mpr hvisible)), hvalue]
      exact if_pos ⟨hname, htrue, hfalse⟩

/-! ## All parameters -/

/-- Parameters have distinct names, so a name is given the value that it stands with. -/
theorem get?_eq_some_iff : p.get? name = some value ↔ (name, value) ∈ p.fields :=
  Json.field?_eq_some_iff_mem (Json.Ascending.nodup p.canonical.1)

/-- Parameters pass the check exactly if all of them are admissible. -/
theorem check_get_eq_ok_iff : p.check .get = .ok () ↔
    ∀ name value, p.get? name = some value → Admissible name value := by
  refine Json.forM_eq_ok_iff.trans ⟨fun h name value hvalue => ?_, fun h field hmem => ?_⟩
  · exact checkField_eq_ok_iff.mp (h _ (get?_eq_some_iff.mp hvalue))
  · exact checkField_eq_ok_iff.mpr (h _ _ (get?_eq_some_iff.mpr hmem))

/-- The check fails with the objection to the smallest name that has one. -/
theorem check_get_eq_error_iff : p.check .get = .error f ↔
    ∃ name value, p.get? name = some value ∧ Objection name value f ∧
      ∀ other v, p.get? other = some v → Utf8.encode other < Utf8.encode name →
        Admissible other v := by
  refine (Json.forM_eq_error_iff p.canonical.1).trans ⟨?_, ?_⟩
  · rintro ⟨⟨name, value⟩, hmem, hfault, hbefore⟩
    refine ⟨name, value, get?_eq_some_iff.mpr hmem, checkField_eq_error_iff.mp hfault, ?_⟩
    intro other v hother hlt
    exact checkField_eq_ok_iff.mp
      (hbefore (other, v) (get?_eq_some_iff.mp hother) (Utf8.encode_lt_iff.mp hlt))
  · rintro ⟨name, value, hvalue, hobjection, hbefore⟩
    refine ⟨(name, value), get?_eq_some_iff.mp hvalue, checkField_eq_error_iff.mpr hobjection, ?_⟩
    intro other hother hlt
    exact checkField_eq_ok_iff.mpr
      (hbefore _ _ (get?_eq_some_iff.mpr hother) (Utf8.encode_lt_iff.mpr hlt))

/-- **The smallest refused name decides.** The parameters of a write command are not looked at.
Those of a read command pass exactly if each of them is admissible.  If they do not, the fault is a
fault of validation, namely the objection to the one refused parameter whose name has the smallest
octets; all names before it are admissible.  The order in which a message gives its parameters has
no part in this: members in another order, each name given once, are read as the same parameters. -/
theorem smallest_refused_name_decides (p : Params) :
    p.check .set = .ok () ∧
    (p.check .get = .ok () ↔ ∀ name value, p.get? name = some value → Admissible name value) ∧
    (∀ f, p.check .get = .error f ↔
      ∃ name value, p.get? name = some value ∧ Objection name value f ∧
        ∀ other v, p.get? other = some v → Utf8.encode other < Utf8.encode name →
          Admissible other v) ∧
    (∀ f, p.check .get = .error f → f.kind = .validation) ∧
    (∀ members members' : List (List TextUnit × Document), members.Perm members' →
      (members.map (unitText? ·.1)).Nodup → paramsOf? (.object members) = some p →
        paramsOf? (.object members') = some p) := by
  refine ⟨rfl, check_get_eq_ok_iff, fun f => check_get_eq_error_iff, fun f h => ?_,
    fun members members' hperm hnodup hp => paramsOf?_perm hperm hnodup hp⟩
  obtain ⟨_, _, _, hobjection, _⟩ := check_get_eq_error_iff.mp h
  exact kind_of_objection hobjection

/-- A flag for a zone, which should be a text. -/
def zone : List TextUnit × Document := (textUnits "zone".toList, .bool true)

/-- A switch for events, which should be in small letters. -/
def switch : List TextUnit × Document :=
  (textUnits "ds-pushevent".toList, .text (textUnits "TRUE".toList))

/-- Of two refused parameters the one whose name is smaller is told, though it was given later. -/
theorem switch_is_refused_before_zone : ∃ p, paramsOf? (.object [zone, switch]) = some p ∧
    paramsOf? (.object [switch, zone]) = some p ∧
    p.check .get = .error (.reservedParameter "ds-pushevent" "TRUE") ∧ p.check .set = .ok () := by
  obtain ⟨p, hp⟩ := Option.isSome_iff_exists.mp
    (show (paramsOf? (.object [zone, switch])).isSome = true by decide)
  obtain ⟨hset, -, -, -, horder⟩ := smallest_refused_name_decides p
  have hcheck : (paramsOf? (.object [zone, switch])).map (·.check .get) =
      some (.error (.reservedParameter "ds-pushevent" "TRUE")) := by decide
  rw [hp] at hcheck
  exact ⟨p, hp, horder _ _ (.swap switch zone []) (by decide) hp, Option.some.inj hcheck, hset⟩

end CommandRelay.Params
