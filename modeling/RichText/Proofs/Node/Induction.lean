import RichText.Node.Basic

/-! # Induction on document trees

A property of all nodes follows if every leaf has it, and every container whose children have it. -/

namespace RichText.Node

variable {α : Type}

/-- The induction principle of trees, its cases named after the constructors. -/
@[elab_as_elim, induction_eliminator]
theorem induct {motive : Node α → Prop}
    (leaf : ∀ m l, motive (leaf m l))
    (branch : ∀ m c ns, (∀ n ∈ ns, motive n) → motive (branch m c ns)) :
    ∀ n, motive n
  | .leaf m l => leaf m l
  | .branch m c ns => branch m c ns fun n _ => induct leaf branch n

end RichText.Node
