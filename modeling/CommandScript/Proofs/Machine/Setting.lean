import CommandScript.Proofs.Structured.Acts
import CommandScript.Proofs.Machine.Messages

/-! What `define` and `set` make of a variable. `define` stores its value as one of the type of the variable. With a
    variable of the name, a mode and a value to join to the variable, `set` stores what the mode makes of the two, or
    fails and changes nothing. -/

namespace CommandScript

namespace Scene

/-- The mode of an instruction `set`, and the value that it joins to a variable. -/
structure Setter (s : Scene) (entry : Entry) (mode : SetMode) (input : Value) : Prop where
  mode : (s.argument entry 1).toOption.bind (fun v => SetMode.read? (Text.trim v.toText)) = some mode
  input : s.argument entry 2 = .ok input

/-- What a mode makes of the variable of a slot and a value. -/
def updated (s : Scene) (slot : Nat) (mode : SetMode) (input : Value) : Except RuntimeFault Value :=
  Act.updated s.engine.registries.types mode (((s.frame.script.code.slots[slot]?).map (·.typeName)).getD "text")
    (s.frame.slots[slot]?.getD .null) input

end Scene

namespace Act

theorem on_define (site : Site) {s : Scene} {slot : Nat} {input : Value} (declares : site.entry.declares = some slot)
    (argument : s.argument site.entry 1 = .ok input) (whole : s.engine.outbox.Whole) :
    ∃ e, Act.define.on site s = (.ok .proceed, ⟨e, s.frame.setSlot slot (s.engine.registries.types.convert input
      ((s.frame.script.code.slots[slot]?).getD ⟨"", "text"⟩).typeName)⟩) := by
  have value : (arg 1).on site s = (.ok input, s) := by rw [on_arg, argument]
  have registry : types.on site s = (.ok s.engine.registries.types, s) := rfl
  unfold Act.define
  rw [on_bind, on_read]
  dsimp only
  rw [declares]
  dsimp only
  rw [on_bind, on_frame]
  dsimp only
  rw [on_bind, registry]
  dsimp only
  rw [on_bind, value]
  dsimp only
  rw [on_bind, on_frame]
  dsimp only
  split
  · rw [on_bind, on_say_whole whole]
    exact ⟨_, rfl⟩
  · exact ⟨_, rfl⟩

section
variable (site : Site) {s : Scene} {name : Value} {slot : Nat} {mode : SetMode} {input : Value}
  (argument : s.argument site.entry 0 = .ok name)
  (found : site.entry.names.lookup (Text.lower name.toText) = some slot) (setter : s.Setter site.entry mode input)
include argument found setter

/-- With all that it needs, `set` has only the variable left to store. -/
theorem on_set_of_setter : Act.set.on site s =
    (match s.updated slot mode input with
      | .error e => fail e
      | .ok value => do
        if s.frame.verbosity = .full then
          say .good (s!"Set variable '{Text.lower name.toText}' to '" ++ value.toText ++ "'.")
        onFrame (·.setSlot slot value)
        return .proceed : Act Flow).on site s := by
  obtain ⟨op, hop, read⟩ := Option.bind_eq_some_iff.mp setter.mode
  have text : (argText 0).on site s = (.ok name.toText, s) := by
    rw [on_argText, argument]
    rfl
  have operator : (argText 1).on site s = (.ok op.toText, s) := by
    rw [on_argText, toOption_eq_some.mp hop]
    rfl
  have value : (arg 2).on site s = (.ok input, s) := by rw [on_arg, setter.input]
  have registry : types.on site s = (.ok s.engine.registries.types, s) := rfl
  unfold Act.set
  rw [on_bind, text]
  dsimp only
  rw [on_bind, on_read]
  dsimp only
  rw [found]
  dsimp only
  rw [on_bind, operator]
  dsimp only
  rw [read]
  dsimp only
  rw [on_bind, on_frame]
  dsimp only
  rw [on_bind, value]
  dsimp only
  rw [on_bind, registry]
  rfl

theorem on_set_value {v : Value} (updated : s.updated slot mode input = .ok v) (whole : s.engine.outbox.Whole) :
    ∃ e, Act.set.on site s = (.ok .proceed, ⟨e, s.frame.setSlot slot v⟩) := by
  rw [on_set_of_setter site argument found setter, updated]
  dsimp only
  split
  · rw [on_bind, on_say_whole whole]
    exact ⟨_, rfl⟩
  · exact ⟨_, rfl⟩

theorem on_set_fault {f : RuntimeFault} (updated : s.updated slot mode input = .error f) :
    Act.set.on site s = (.error (.error (.runtime f)), s) := by
  rw [on_set_of_setter site argument found setter, updated]
  exact on_fail f site s

end

end Act

end CommandScript
