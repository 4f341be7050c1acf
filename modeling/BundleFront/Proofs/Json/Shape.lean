import BundleFront.Options.Record
import BundleFront.Proofs.Table.Ascending

/-!
# Reading values back

A shape inverts a way of writing if it reads everything so written and comes to what
was there before.  The shapes of this library invert the writing that goes with them,
with two provisos.  The names of a choice have to tell its values apart
(`LawfulChoice`), and what may be left out must not be written as null.

A table is the exception: its members ascend, so it comes back in that order.
-/

namespace BundleFront

/-- A choice whose names tell its values apart. -/
class LawfulChoice (α : Type) [Choice α] : Prop where
  ofName?_name : ∀ a : α, Choice.ofName? (Choice.name a) = some a

instance : LawfulChoice ColorChoice := ⟨by intro a; cases a <;> decide⟩

instance : LawfulChoice LogLevel := ⟨by intro a; cases a <;> decide⟩

instance : LawfulChoice SourceMap := ⟨by intro a; cases a <;> decide⟩

instance : LawfulChoice Target := ⟨by intro a; cases a <;> decide⟩

instance : LawfulChoice EngineName := ⟨by intro a; cases a <;> decide⟩

instance : LawfulChoice Platform := ⟨by intro a; cases a <;> decide⟩

instance : LawfulChoice Format := ⟨by intro a; cases a <;> decide⟩

instance : LawfulChoice Loader := ⟨by intro a; cases a <;> decide⟩

namespace Shape

variable {α : Type}

/-- The shape reads everything that is so written, and comes to what was there before. -/
def Inverts (shape : Shape α) (write : α → Json) : Prop :=
  ∀ a, shape (.ofJson (write a)) = .ok a

theorem inverts_bool : bool.Inverts .bool := fun _ => rfl

theorem inverts_text : text.Inverts .string := fun _ => rfl

theorem inverts_path : path.Inverts Json.ofPath := fun _ => rfl

theorem natBelow_ofNat {n bound : Nat} (h : n < bound) (expected : String) :
    natBelow bound expected (.ofJson (.ofNat n)) = .ok n := by
  have hrange : 0 ≤ (n : Int) ∧ (n : Int) < bound := by omega
  change (if 0 ≤ (n : Int) ∧ (n : Int) < bound then Except.ok (n : Int).toNat else _) = _
  rw [if_pos hrange, Int.toNat_natCast]

theorem inverts_word64 : word64.Inverts fun n => .ofNat n.toNat := by
  intro n
  unfold word64
  rw [natBelow_ofNat n.toNat_lt]
  exact congrArg Except.ok UInt64.ofNat_toNat

theorem inverts_word32 : word32.Inverts fun n => .ofNat n.toNat := by
  intro n
  unfold word32
  rw [natBelow_ofNat n.toNat_lt]
  exact congrArg Except.ok UInt32.ofNat_toNat

theorem inverts_choice [Choice α] [LawfulChoice α] : (choice (α := α)).Inverts Json.ofChoice := by
  intro a
  change named (Choice.name a) = _
  unfold named
  rw [LawfulChoice.ofName?_name]

/-- Null stands for nothing, so nothing else may be written as null. -/
theorem inverts_optional {shape : Shape α} {write : α → Json} (h : shape.Inverts write)
    (hnull : ∀ a, write a ≠ .null) : (optional shape).Inverts (Json.ofOption write) := by
  intro o
  cases o with
  | none => rfl
  | some a =>
      have hread : optional shape (.ofJson (write a)) = (shape (.ofJson (write a))).map some := by
        cases hwrite : write a with
        | null => exact absurd hwrite (hnull a)
        | _ => rfl
      exact hread.trans (by rw [h a]; rfl)

theorem inverts_list {shape : Shape α} {write : α → Json} (h : shape.Inverts write) :
    (list shape).Inverts fun as => .array (as.map write) := by
  intro as
  change items shape (Document.ofItems (as.map write)) none = .ok as
  induction as with
  | nil => rfl
  | cons a rest ih =>
      change (do
        let a ← shape (.ofJson (write a))
        return a :: (← items shape (Document.ofItems (rest.map write)) none)) = _
      rw [h a, ih]
      rfl

/-- Members that are read come over those that were there. -/
theorem entries_map {shape : Shape α} {write : α → Json} (h : shape.Inverts write)
    (table entries : List (String × α)) :
    Shape.entries shape table
        (Document.ofMembers (entries.map fun entry => (entry.1, write entry.2))) none =
      .ok (Table.overlay table entries) := by
  induction entries generalizing table with
  | nil => rfl
  | cons entry rest ih =>
      change (do
        let a ← shape (.ofJson (write entry.2))
        Shape.entries shape (Table.put entry.1 a table)
          (Document.ofMembers (rest.map fun entry : String × α => (entry.1, write entry.2)))
          none) = _
      rw [h entry.2]
      exact ih (Table.put entry.1 entry.2 table)

/-- A table comes back with its names ascending. -/
theorem table_ofTable {shape : Shape α} {write : α → Json} (h : shape.Inverts write)
    (entries : List (String × α)) :
    table shape (.ofJson (Json.ofTable write entries)) = .ok (Table.sortedOfList entries) := by
  have hnodup := (Table.ascending_sortedOfList entries).nodup_keys
  change Shape.entries shape [] (Document.ofMembers
    (Table.sortedOfList (entries.map fun entry : String × α => (entry.1, write entry.2)))) none = _
  rw [Table.sortedOfList_map, entries_map h]
  exact congrArg Except.ok (Table.ofList_eq_self hnodup)

end Shape
end BundleFront
