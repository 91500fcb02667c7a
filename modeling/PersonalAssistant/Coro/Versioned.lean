import Mathlib

/-!
# Rows under optimistic version checks

A store keeps one row for a key and accepts a write only under the version its writer read.
Every write is a `Step` that keeps the key and raises the version. A copy of a row that was
read at some time is then an ancestor of the row stored now, and it is that row itself when
the versions agree; so a writer whose version check passes knows the row it replaces.
-/

namespace Versioned

open Relation

variable {ρ κ : Type}

/-- What identifies a row and its versions, and what a write may do to it. -/
structure Discipline (ρ κ : Type) where
  key : ρ → κ
  version : ρ → Nat
  Step : ρ → ρ → Prop
  step_key : ∀ {r r'}, Step r r' → key r' = key r
  step_version : ∀ {r r'}, Step r r' → version r < version r'

namespace Discipline

variable (D : Discipline ρ κ)

/-- A row after any number of writes. -/
abbrev Leads : ρ → ρ → Prop := ReflTransGen D.Step

/-- A copy of a row of the store, read at some time. -/
def Held (rows : List ρ) (copy : ρ) : Prop := ∃ row ∈ rows, D.Leads copy row

/-- The rows of a store moved on by writes; rows may be added. -/
def Advances (rows rows' : List ρ) : Prop := ∀ row ∈ rows, ∃ row' ∈ rows', D.Leads row row'

variable {D} {rows rows' : List ρ} {copy row row' : ρ}

theorem leads_key (h : D.Leads copy row) : D.key row = D.key copy := by
  induction h with
  | refl => rfl
  | tail _ step ih => exact (D.step_key step).trans ih

theorem leads_version (h : D.Leads copy row) : copy = row ∨ D.version copy < D.version row := by
  induction h with
  | refl => exact .inl rfl
  | tail _ step ih =>
    rcases ih with rfl | lt
    · exact .inr (D.step_version step)
    · exact .inr (Nat.lt_trans lt (D.step_version step))

/-- What every write keeps, every number of writes keeps. -/
theorem leads_keeps {P : ρ → Prop} (stable : ∀ {r r'}, P r → D.Step r r' → P r') (h : D.Leads copy row)
    (first : P copy) : P row := by
  induction h with
  | refl => exact first
  | tail _ step ih => exact stable ih step

theorem advances_refl : D.Advances rows rows := fun row mem => ⟨row, mem, .refl⟩

theorem held_of_mem (mem : row ∈ rows) : D.Held rows row := ⟨row, mem, .refl⟩

theorem Held.advance (held : D.Held rows copy) (moved : D.Advances rows rows') : D.Held rows' copy := by
  obtain ⟨row, mem, leads⟩ := held
  obtain ⟨row', mem', more⟩ := moved row mem
  exact ⟨row', mem', leads.trans more⟩

/-- **A passed version check.** The copy is the row that is stored. -/
theorem Held.current (held : D.Held rows copy) (unique : (rows.map D.key).Nodup) (mem : row ∈ rows)
    (same : D.key row = D.key copy) (version : D.version row = D.version copy) : row = copy := by
  obtain ⟨stored, memStored, leads⟩ := held
  have key : D.key stored = D.key row := (leads_key leads).trans same.symm
  have eq : stored = row := List.inj_on_of_nodup_map unique memStored mem key
  subst eq
  rcases leads_version leads with rfl | lt
  · rfl
  · omega

end Discipline

end Versioned
