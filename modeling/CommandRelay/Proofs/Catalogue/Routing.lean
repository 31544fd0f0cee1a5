import CommandRelay.Catalogue.Routing
import CommandRelay.Proofs.Correlation.Matching

/-!
# Which commands have a route

A command has a route exactly if the device that `Owns` the name takes it, and the route goes to the
service of that device (`resolve_eq_ok_iff_owns`).  In a catalogue whose device names are distinct,
the owner is the device with the name (`resolve_eq_ok_iff`).  `Device.Takes` says the latter without
a look-up: a device without commands takes everything, any other one goes by the first of its
commands with that name.
-/

namespace CommandRelay

/-- A device takes a command with a method. -/
def Device.Takes (d : Device) (command : String) (method : Method) : Prop :=
  d.commands = [] ∨ ∃ before c behind, d.commands = before ++ c :: behind ∧
    (∀ b ∈ before, b.name ≠ command) ∧ c.name = command ∧ c.supports method = true

namespace Catalogue

/-- A device permits what it takes: a method that the first command of the name has. -/
theorem permit_eq_ok_iff (d : Device) (command : String) (method : Method) :
    permit d command method = .ok () ↔ d.Takes command method := by
  rw [permit, Device.Takes]
  by_cases hnone : d.commands = []
  · simp [hnone]
  rw [if_neg (by simpa using hnone), or_iff_right hnone, Device.command?]
  cases hfind : d.commands.find? (·.name == command) with
  | none =>
    have hother := List.find?_eq_none.mp hfind
    refine iff_of_false nofun ?_
    rintro ⟨before, c, behind, hsplit, -, hname, -⟩
    exact hother c (by rw [hsplit]; simp) (by simpa using hname)
  | some c =>
    obtain ⟨hname, before, behind, hsplit, hbefore⟩ := List.find?_eq_some_iff_append.mp hfind
    show (if c.supports method = true then Except.ok () else _) = _ ↔ _
    constructor
    · intro hok
      have hsupports : c.supports method = true := by
        by_contra hnot
        rw [if_neg hnot] at hok
        cases hok
      exact ⟨before, c, behind, hsplit, by simpa using hbefore, by simpa using hname, hsupports⟩
    · -- There is only one first command with that name.
      rintro ⟨before', c', behind', hsplit', hbefore', hname', hsupports⟩
      have hfind' : d.commands.find? (·.name == command) = some c' :=
        List.find?_eq_some_iff_append.mpr
          ⟨by simpa using hname', before', behind', hsplit', by simpa using hbefore'⟩
      obtain rfl : c = c' := Option.some.inj (hfind.symm.trans hfind')
      exact if_pos hsupports

/-- A device owns a name in a catalogue: it is the last one that was given with it. -/
def Owns (devices : Catalogue) (name : String) (d : Device) : Prop :=
  ∃ before behind, devices = before ++ d :: behind ∧ d.name = name ∧ ∀ e ∈ behind, e.name ≠ name

/-- The router sends a device name to the device that owns it: the first one of that name. -/
theorem routed?_eq_some_iff_owns {devices : Catalogue} {name : String} {d : Device} :
    devices.routed? name = some d ↔ Owns devices name d := by
  rw [routed?, List.find?_eq_some_iff_append]
  constructor
  · rintro ⟨hname, behind, before, hsplit, hbehind⟩
    refine ⟨before.reverse, behind.reverse, ?_, by simpa using hname, fun e he => ?_⟩
    · rw [← List.reverse_reverse devices, hsplit]
      simp
    · simpa using hbehind e (List.mem_reverse.mp he)
  · rintro ⟨before, behind, rfl, hname, hbehind⟩
    refine ⟨by simpa using hname, behind.reverse, before.reverse, by simp, fun e he => ?_⟩
    simpa using hbehind e (List.mem_reverse.mp he)

/-- A command has a route exactly if the owner of the name takes it, whether names are distinct or
not. -/
theorem resolve_eq_ok_iff_owns {devices : Catalogue} {base device command : String}
    {method : Method} {r : Route} :
    devices.resolve base device command method = .ok r ↔
      ∃ d, Owns devices device d ∧ d.Takes command method ∧
        r = ⟨d.service, requestTopic base d.service device command method⟩ := by
  rw [resolve]
  cases hrouted : devices.routed? device with
  | none =>
    refine iff_of_false nofun ?_
    rintro ⟨d, howns, -⟩
    rw [routed?_eq_some_iff_owns.mpr howns] at hrouted
    cases hrouted
  | some d =>
    have howns := routed?_eq_some_iff_owns.mp hrouted
    simp only
    constructor
    · intro hok
      cases hpermit : permit d command method with
      | error f =>
        rw [hpermit] at hok
        cases hok
      | ok u =>
        rw [hpermit] at hok
        exact ⟨d, howns, (permit_eq_ok_iff d command method).mp hpermit, (Except.ok.inj hok).symm⟩
    · -- A name has one owner.
      rintro ⟨d', howns', htakes, rfl⟩
      have hrouted' := routed?_eq_some_iff_owns.mpr howns'
      obtain rfl : d = d' := Option.some.inj (hrouted.symm.trans hrouted')
      rw [(permit_eq_ok_iff d command method).mpr htakes]
      rfl

/-- Where names are distinct, the device that is routed to is the one with that name. -/
theorem routed?_eq_some_iff {devices : Catalogue} (hnames : (devices.map (·.name)).Nodup)
    {name : String} {d : Device} :
    devices.routed? name = some d ↔ d ∈ devices ∧ d.name = name := by
  have hreverse : (devices.reverse.map (·.name)).Nodup := by
    rwa [List.map_reverse, List.nodup_reverse]
  rw [routed?, Correlation.find?_key_eq_some_iff hreverse, List.mem_reverse]

/-- Where names are distinct, the owner of a name is the one device with that name. -/
theorem owns_iff {devices : Catalogue} (hnames : (devices.map (·.name)).Nodup) {name : String}
    {d : Device} : Owns devices name d ↔ d ∈ devices ∧ d.name = name :=
  routed?_eq_some_iff_owns.symm.trans (routed?_eq_some_iff hnames)

/-- A command has a route exactly if its device is there and takes it. -/
theorem resolve_eq_ok_iff {devices : Catalogue} (hnames : (devices.map (·.name)).Nodup)
    {base device command : String} {method : Method} {r : Route} :
    devices.resolve base device command method = .ok r ↔
      ∃ d ∈ devices, d.name = device ∧ d.Takes command method ∧
        r = ⟨d.service, requestTopic base d.service device command method⟩ := by
  simp only [resolve_eq_ok_iff_owns, owns_iff hnames, and_assoc]

end Catalogue

end CommandRelay
