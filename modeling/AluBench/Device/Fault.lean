import AluBench.Device.ModelWire

/-!
# Faults

Devices that are wrong in a known way, to see that a run finds it: an output bus with stuck, flipped
or late bits, scripted answers, an inverted borrow, swapped operands.
-/

namespace AluBench

/-- A fault of the output bus. The bits of `kept` pass, the bits of `raised` are stuck high, then
those of `flipped` are inverted. -/
structure Fault where
  kept : UInt8 := 255
  raised : UInt8 := 0
  flipped : UInt8 := 0
  /-- The bus shows what it held before the last drive. -/
  late : Bool := false
  deriving DecidableEq, Repr, Inhabited

/-- The byte on a faulty bus in the place of a sound one. -/
def Fault.distort (f : Fault) (byte : UInt8) : UInt8 :=
  ((byte &&& f.kept) ||| f.raised) ^^^ f.flipped

/-- The state of a faulty wire: that of the sound wire inside and what it showed before the last
drive. -/
structure Faulty (ω : Type) where
  inner : ω
  previous : UInt8 := 0

/-- A wire seen through a fault of its output bus. Its settle does not wait for the wire inside. -/
def Wire.withFault {ω : Type} (w : Wire ω) (f : Fault) : Wire (Faulty ω) where
  drive state operands selector :=
    let before := w.sample state.inner
    ⟨w.drive before.2 operands selector, before.1⟩
  sample state :=
    if f.late then (f.distort state.previous, state)
    else
      let now := w.sample state.inner
      (f.distort now.1, { state with inner := now.2 })

/-- The state of a scripted wire. -/
structure Script where
  drives : Nat := 0
  settles : Nat := 0
  /-- What was last driven. -/
  last : Option (UInt8 × UInt8) := none
  deriving DecidableEq, Repr, Inhabited

/-- The entry of a script that is played again from its start when it ends. -/
def Script.entry {α : Type} [Inhabited α] (script : List α) (n : Nat) : α :=
  script[n % script.length]?.getD default

/-- A wire that shows the bytes of a script, one per drive, and zero before the first drive. -/
def Wire.scripted (bytes : List UInt8) : Wire Script where
  drive state operands selector :=
    { state with drives := state.drives + 1, last := some (operands, selector) }
  settle state := { state with settles := state.settles + 1 }
  sample state :=
    (match state.drives with
      | 0 => 0
      | n + 1 => Script.entry bytes n, state)

namespace Device

/-- A device that answers with the outputs of a script, whatever it is asked. -/
def scripted (outputs : List Output) : Device Nat := counting fun n _ _ _ => Script.entry outputs n

/-- The model with the borrow inverted. A selector byte with a high nibble is not taken for a
difference. -/
def invertedBorrow : Device Nat := ofFunction fun a b sel =>
  let out := Model.evaluate a b sel
  if sel == Operation.sub.selector then { out with carry := !out.carry } else out

/-- The model with its operands swapped. -/
def swapped : Device Nat := ofFunction fun a b sel => Model.evaluate b a sel

end Device

end AluBench
