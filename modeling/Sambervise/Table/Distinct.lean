import Mathlib.Logic.Function.Basic

namespace Sambervise.Table

/-! Places that carry a label each, or none, where no two carry the same. -/

variable {α β γ : Type*} {label : α → Option β}

def Distinct (label : α → Option β) : Prop :=
  ∀ value first second, label first = some value → label second = some value → first = second

namespace Distinct

/-- Where labels move, together with tags that are distinct and stay so, and none is new. -/
theorem carried (distinct : Distinct label) {moved : α → Option β} {tag tagged : α → Option γ}
    (tags : Distinct tagged)
    (comes : ∀ place value, moved place = some value →
      ∃ origin mark, label origin = some value ∧ tag origin = some mark ∧
        tagged place = some mark) : Distinct moved := by
  intro value first second atFirst atSecond
  obtain ⟨origin, mark, had, marked, here⟩ := comes first value atFirst
  obtain ⟨other, another, hadToo, markedToo, there⟩ := comes second value atSecond
  obtain rfl := distinct value origin other had hadToo
  obtain rfl := Option.some.inj (marked.symm.trans markedToo)
  exact tags mark first second here there

end Distinct

end Sambervise.Table
