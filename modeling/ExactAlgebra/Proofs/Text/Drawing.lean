import ExactAlgebra.Proofs.CanonicalOrder
import ExactAlgebra.Proofs.Evaluation.Basic
import ExactAlgebra.Proofs.Text.LinearForm
import ExactAlgebra.Workbench.Operation.Passes

/-!
# A drawing determines the expression

No two well-formed expressions are drawn alike, whatever stands in front of their lines.
A drawing starts with a label, which ends at the first line feed and tells the kind of the
expression. Below it are the drawings of its limbs: the operands of a sum or product, and
the base and the exponent of a power, which is drawn like a constant. The connector in
front of a limb tells whether another one follows, so the characters tell where each limb
ends and how many there are.

Every node is drawn on a line of its own, and so is the exponent of every power.
-/

namespace ExactAlgebra
namespace Text

/-! ## Lines -/

/-- The text is made of the lines, each of them ended by the only line feed that it
holds. -/
structure HasLines (text : String) (lines : List String) : Prop where
  joined : text = String.join (lines.map (· ++ "\n"))
  unbroken : ∀ line ∈ lines, '\n' ∉ line.toList

namespace HasLines

variable {text other : String} {lines otherLines : List String}

theorem nil : HasLines "" [] := ⟨rfl, nofun⟩

theorem singleton {line : String} (unbroken : '\n' ∉ line.toList) :
    HasLines (line ++ "\n") [line] where
  joined := by simp
  unbroken := List.forall_mem_singleton.mpr unbroken

theorem append (first : HasLines text lines) (second : HasLines other otherLines) :
    HasLines (text ++ other) (lines ++ otherLines) where
  joined := by rw [List.map_append, String.join_append, first.joined, second.joined]
  unbroken := List.forall_mem_append.mpr ⟨first.unbroken, second.unbroken⟩

end HasLines

theorem newline_notMem_append
    {start finish : String}
    (startUnbroken : '\n' ∉ start.toList)
    (finishUnbroken : '\n' ∉ finish.toList) :
    '\n' ∉ (start ++ finish).toList := by
  rw [String.toList_append, List.mem_append, not_or]
  exact ⟨startUnbroken, finishUnbroken⟩

end Text

namespace Expr

open Text

/-! ## Labels and limbs -/

/-- What is drawn on the line of the expression itself. -/
def label : Expr → String
  | number value => value.text
  | symbol name => name.text
  | sum _ => "+"
  | product _ => "*"
  | power _ _ => "^"

/-- What is drawn below an expression, the exponent of a power as a constant. -/
def limbs : Expr → List Expr
  | number _ => []
  | symbol _ => []
  | sum operands => operands
  | product operands => operands
  | power base exponent => [base, number exponent]

variable {expr first second : Expr} {lead below : String}

theorem drawAll_singleton (below : String) (operand : Expr) :
    drawAll below [operand] = draw (below ++ lastBranch) (below ++ gap) operand := by
  rw [drawAll]

theorem drawAll_cons_cons (below : String) (operand next : Expr) (operands : List Expr) :
    drawAll below (operand :: next :: operands) =
      draw (below ++ branch) (below ++ trunk) operand ++ drawAll below (next :: operands) := by
  rw [drawAll]
  exact nofun

/-- A drawing is a label with the limbs below it. -/
theorem draw_eq (lead below : String) (expr : Expr) :
    draw lead below expr = lead ++ expr.label ++ "\n" ++ drawAll below expr.limbs := by
  have newline (sign : String) : lead ++ sign ++ "\n" = lead ++ (sign ++ "\n") :=
    String.append_assoc
  cases expr with
  | number value => simp [draw, label, limbs, drawAll]
  | symbol name => simp [draw, label, limbs, drawAll]
  | sum operands => rw [draw, label, newline]; rfl
  | product operands => rw [draw, label, newline]; rfl
  | power base exponent =>
      rw [draw, label, newline, limbs, drawAll_cons_cons, drawAll_singleton, draw,
        String.append_assoc]
      rfl

/-- Prove a property of all expressions from the limbs of each. -/
theorem limbs_induction
    {motive : Expr → Prop}
    (step : ∀ expr, (∀ limb ∈ expr.limbs, motive limb) → motive expr)
    (expr : Expr) : motive expr := by
  have constant (value : Fraction) : motive (number value) := step _ nofun
  induction expr with
  | number value => exact constant value
  | symbol name => exact step _ nofun
  | sum operands hypothesis => exact step _ hypothesis
  | product operands hypothesis => exact step _ hypothesis
  | power base exponent hypothesis =>
      apply step
      simp only [limbs, List.forall_mem_cons]
      exact ⟨hypothesis, constant exponent, nofun⟩

theorem WellFormed.limbs (wellFormed : WellFormed expr) :
    ∀ limb ∈ expr.limbs, WellFormed limb := by
  cases wellFormed with
  | number value => exact nofun
  | symbol name => exact nofun
  | sum operands several ordered parts => exact parts
  | product operands several ordered parts => exact parts
  | power base exponent inner =>
      simp only [Expr.limbs, List.forall_mem_cons]
      exact ⟨inner, .number exponent, nofun⟩

/-- Only constants and variables have no limbs. -/
theorem WellFormed.limbs_eq_nil_iff (wellFormed : WellFormed expr) :
    expr.limbs = [] ↔ expr.kind = .number ∨ expr.kind = .symbol := by
  cases wellFormed with
  | number value => simp [Expr.limbs, kind]
  | symbol name => simp [Expr.limbs, kind]
  | sum operands several =>
      have nonempty : operands ≠ [] := List.ne_nil_of_length_pos (by omega)
      simp [Expr.limbs, kind, nonempty]
  | product operands several =>
      have nonempty : operands ≠ [] := List.ne_nil_of_length_pos (by omega)
      simp [Expr.limbs, kind, nonempty]
  | power base exponent inner => simp [Expr.limbs, kind]

/-- The first character of a label tells the kind of the expression. -/
theorem exists_first?_label (expr : Expr) :
    ∃ character, first? expr.label = some character ∧
      Kind.ofFirst? character = some expr.kind := by
  cases expr with
  | number value => exact (number value).exists_ofFirst?_linear
  | symbol name => exact (symbol name).exists_ofFirst?_linear
  | sum operands => exact ⟨'+', by rw [label]; rfl, rfl⟩
  | product operands => exact ⟨'*', by rw [label]; rfl, rfl⟩
  | power base exponent => exact ⟨'^', by rw [label]; rfl, rfl⟩

theorem kind_eq_of_label_eq (sameLabel : first.label = second.label) :
    first.kind = second.kind := by
  obtain ⟨character, starts, kind⟩ := first.exists_first?_label
  obtain ⟨other, otherStarts, otherKind⟩ := second.exists_first?_label
  rw [sameLabel, otherStarts] at starts
  cases starts
  exact Option.some.inj (kind.symm.trans otherKind)

/-- An expression is known from its label and its limbs. -/
theorem eq_of_label_eq_of_limbs_eq
    (sameLabel : first.label = second.label)
    (sameLimbs : first.limbs = second.limbs) :
    first = second := by
  have sameKind := kind_eq_of_label_eq sameLabel
  cases first <;> cases second <;> try cases sameKind
  · rw [Fraction.text_injective sameLabel]
  · rw [Symbol.text_injective sameLabel]
  · exact congrArg sum sameLimbs
  · exact congrArg product sameLimbs
  · simp only [limbs, List.cons.injEq, number.injEq, and_true] at sameLimbs
    rw [sameLimbs.1, sameLimbs.2]

/-- A label stands on one line. -/
theorem newline_notMem_label (expr : Expr) : '\n' ∉ expr.label.toList := by
  cases expr with
  | number value =>
      intro member
      simpa using Fraction.eq_minus_or_slash_or_isDigit_of_mem_text member
  | symbol name =>
      intro member
      exact absurd (name.isAlpha_of_mem_text member) (by decide)
  | sum _ | product _ | power _ _ =>
      rw [label]
      decide

/-! ## Where drawings end -/

theorem toList_draw (lead below : String) (expr : Expr) :
    (draw lead below expr).toList =
      lead.toList ++ (expr.label.toList ++ '\n' :: (drawAll below expr.limbs).toList) := by
  rw [draw_eq, String.toList_append, String.toList_append, String.toList_append,
    List.append_assoc, List.append_assoc]
  rfl

/-- Whatever stands in front of the lines, an expression is known from its drawing, and so
is what follows the drawing. -/
def IsKnownFromDrawing (expr : Expr) : Prop :=
  ∀ (other : Expr) (lead below : String) (rest otherRest : List Char),
    WellFormed other →
      (draw lead below expr).toList ++ rest = (draw lead below other).toList ++ otherRest →
        expr = other ∧ rest = otherRest

/-- The connector in front of a limb tells whether it is the last one. -/
theorem draw_branch_ne_draw_lastBranch
    (below continued ended : String)
    (first second : Expr)
    (rest otherRest : List Char) :
    (draw (below ++ branch) continued first).toList ++ rest ≠
      (draw (below ++ lastBranch) ended second).toList ++ otherRest := by
  have continues : branch.toList = '├' :: ['─', '─', ' '] := rfl
  have ends : lastBranch.toList = '╰' :: ['─', '─', ' '] := rfl
  intro equal
  simp [toList_draw, String.toList_append, continues, ends] at equal

/-- The limbs that are drawn one below the other are known if each of them is. -/
theorem drawAll_append_inj
    {operands others : List Expr}
    {rest otherRest : List Char}
    (known : ∀ operand ∈ operands, IsKnownFromDrawing operand)
    (wellFormed : ∀ other ∈ others, WellFormed other)
    (nonempty : operands ≠ [])
    (othersNonempty : others ≠ [])
    (equal : (drawAll below operands).toList ++ rest =
      (drawAll below others).toList ++ otherRest) :
    operands = others ∧ rest = otherRest := by
  induction operands generalizing others with
  | nil => exact absurd rfl nonempty
  | cons operand operands hypothesis =>
      obtain ⟨headKnown, tailKnown⟩ := List.forall_mem_cons.mp known
      cases others with
      | nil => exact absurd rfl othersNonempty
      | cons other others =>
          obtain ⟨headWellFormed, tailWellFormed⟩ := List.forall_mem_cons.mp wellFormed
          cases operands with
          | nil =>
              cases others with
              | nil =>
                  rw [drawAll_singleton, drawAll_singleton] at equal
                  obtain ⟨rfl, sameRest⟩ := headKnown other _ _ _ _ headWellFormed equal
                  exact ⟨rfl, sameRest⟩
              | cons otherNext others =>
                  rw [drawAll_singleton, drawAll_cons_cons, String.toList_append,
                    List.append_assoc] at equal
                  exact absurd equal.symm (draw_branch_ne_draw_lastBranch _ _ _ _ _ _ _)
          | cons next operands =>
              rw [drawAll_cons_cons, String.toList_append, List.append_assoc] at equal
              cases others with
              | nil =>
                  rw [drawAll_singleton] at equal
                  exact absurd equal (draw_branch_ne_draw_lastBranch _ _ _ _ _ _ _)
              | cons otherNext others =>
                  rw [drawAll_cons_cons, String.toList_append, List.append_assoc] at equal
                  obtain ⟨rfl, remaining⟩ := headKnown other _ _ _ _ headWellFormed equal
                  obtain ⟨sameLimbs, sameRest⟩ := hypothesis tailKnown tailWellFormed
                    (List.cons_ne_nil _ _) (List.cons_ne_nil _ _) remaining
                  rw [sameLimbs]
                  exact ⟨rfl, sameRest⟩

/-- Every well-formed expression is known from its drawing. -/
theorem WellFormed.isKnownFromDrawing
    (wellFormed : WellFormed expr) :
    IsKnownFromDrawing expr := by
  induction expr using limbs_induction with
  | step expr hypothesis =>
      intro other lead below rest otherRest otherWellFormed equal
      simp only [toList_draw, List.append_assoc, List.append_cancel_left_eq,
        List.cons_append] at equal
      have unbroken (expr : Expr) :
          ∀ character ∈ expr.label.toList, (character == '\n') = false := by
        intro character member
        rw [beq_eq_false_iff_ne]
        rintro rfl
        exact expr.newline_notMem_label member
      obtain ⟨sameLabel, remaining⟩ := append_inj_of_startsMarked (unbroken expr) (unbroken other)
        (.cons rfl _) (.cons rfl _) equal
      have sameText := String.toList_injective sameLabel
      have sameShape : expr.limbs = [] ↔ other.limbs = [] := by
        rw [wellFormed.limbs_eq_nil_iff, otherWellFormed.limbs_eq_nil_iff,
          kind_eq_of_label_eq sameText]
      rw [List.cons.injEq] at remaining
      by_cases leaf : expr.limbs = []
      · have otherLeaf : other.limbs = [] := sameShape.mp leaf
        rw [leaf, otherLeaf] at remaining
        exact ⟨eq_of_label_eq_of_limbs_eq sameText (leaf.trans otherLeaf.symm), remaining.2⟩
      · have known : ∀ limb ∈ expr.limbs, IsKnownFromDrawing limb := fun limb member =>
          hypothesis limb member (wellFormed.limbs limb member)
        obtain ⟨sameLimbs, sameRest⟩ := drawAll_append_inj known otherWellFormed.limbs leaf
          (mt sameShape.mpr leaf) remaining.2
        exact ⟨eq_of_label_eq_of_limbs_eq sameText sameLimbs, sameRest⟩

/-! ## The lines of a drawing -/

mutual
/-- The nodes of an expression, each as often as it occurs. -/
def nodes : Expr → List Expr
  | number value => [number value]
  | symbol name => [symbol name]
  | sum operands => sum operands :: nodesAll operands
  | product operands => product operands :: nodesAll operands
  | power base exponent => power base exponent :: nodes base
/-- The nodes of all expressions of a list. -/
def nodesAll : List Expr → List Expr
  | [] => []
  | operand :: operands => nodes operand ++ nodesAll operands
end

/-- Number of nodes, with powers counted twice. -/
def lineCount (expr : Expr) : Nat :=
  expr.nodes.length + expr.nodes.countP (·.kind = .power)

theorem lineCount_nodesAll (operands : List Expr) :
    (nodesAll operands).length + (nodesAll operands).countP (·.kind = .power) =
      (operands.map lineCount).sum := by
  induction operands with
  | nil => rfl
  | cons operand operands hypothesis =>
      rw [nodesAll, List.length_append, List.countP_append, List.map_cons, List.sum_cons,
        ← hypothesis, lineCount]
      omega

/-- An expression has a line of its own, and its limbs have the others. -/
theorem lineCount_eq (expr : Expr) : expr.lineCount = (expr.limbs.map lineCount).sum + 1 := by
  cases expr with
  | number value => simp [lineCount, nodes, kind, limbs]
  | symbol name => simp [lineCount, nodes, kind, limbs]
  | sum operands =>
      rw [limbs, ← lineCount_nodesAll]
      simp [lineCount, nodes, kind]
      omega
  | product operands =>
      rw [limbs, ← lineCount_nodesAll]
      simp [lineCount, nodes, kind]
      omega
  | power base exponent =>
      simp [limbs, lineCount, nodes, kind]
      omega

/-- Whatever stands in front of the lines, an expression is drawn on as many lines as
counted, the first of which is its label with `lead` in front and all others of which
start with `below`. -/
def IsDrawnOnLines (expr : Expr) : Prop :=
  ∀ lead below : String, '\n' ∉ lead.toList → '\n' ∉ below.toList →
    ∃ others : List String,
      HasLines (draw lead below expr) ((lead ++ expr.label) :: others) ∧
        others.length + 1 = expr.lineCount ∧ ∀ line ∈ others, ∃ rest, line = below ++ rest

/-- All lines of a limb start with what stands in front of the lines of limbs. -/
theorem IsDrawnOnLines.limb
    {operand : Expr}
    {connector continuation : String}
    (drawn : IsDrawnOnLines operand)
    (unbroken : '\n' ∉ below.toList)
    (connectorUnbroken : '\n' ∉ connector.toList)
    (continuationUnbroken : '\n' ∉ continuation.toList) :
    ∃ lines : List String,
      HasLines (draw (below ++ connector) (below ++ continuation) operand) lines ∧
        lines.length = operand.lineCount ∧ ∀ line ∈ lines, ∃ rest, line = below ++ rest := by
  obtain ⟨others, hasLines, count, continued⟩ := drawn (below ++ connector) (below ++ continuation)
    (newline_notMem_append unbroken connectorUnbroken)
    (newline_notMem_append unbroken continuationUnbroken)
  refine ⟨_, hasLines, count, ?_⟩
  rw [List.forall_mem_cons]
  constructor
  · exact ⟨connector ++ operand.label, String.append_assoc⟩
  · intro line member
    obtain ⟨rest, rfl⟩ := continued line member
    exact ⟨continuation ++ rest, String.append_assoc⟩

theorem exists_hasLines_drawAll
    {operands : List Expr}
    (each : ∀ operand ∈ operands, IsDrawnOnLines operand)
    (unbroken : '\n' ∉ below.toList) :
    ∃ lines : List String,
      HasLines (drawAll below operands) lines ∧
        lines.length = (operands.map lineCount).sum ∧
          ∀ line ∈ lines, ∃ rest, line = below ++ rest := by
  have branchUnbroken : '\n' ∉ branch.toList := by decide
  have trunkUnbroken : '\n' ∉ trunk.toList := by decide
  have lastBranchUnbroken : '\n' ∉ lastBranch.toList := by decide
  have gapUnbroken : '\n' ∉ gap.toList := by decide
  induction operands with
  | nil => exact ⟨[], .nil, rfl, nofun⟩
  | cons operand operands hypothesis =>
      obtain ⟨here, there⟩ := List.forall_mem_cons.mp each
      cases operands with
      | nil =>
          rw [drawAll_singleton, List.map_singleton, List.sum_singleton]
          exact here.limb unbroken lastBranchUnbroken gapUnbroken
      | cons next operands =>
          obtain ⟨lines, hasLines, count, below⟩ :=
            here.limb unbroken branchUnbroken trunkUnbroken
          obtain ⟨others, othersHasLines, othersCount, othersBelow⟩ := hypothesis there
          rw [drawAll_cons_cons, List.map_cons, List.sum_cons]
          refine ⟨lines ++ others, hasLines.append othersHasLines, ?_, ?_⟩
          · rw [List.length_append, count, othersCount]
          · exact List.forall_mem_append.mpr ⟨below, othersBelow⟩

/-- Every expression is drawn on as many lines as counted. -/
theorem isDrawnOnLines (expr : Expr) : IsDrawnOnLines expr := by
  induction expr using limbs_induction with
  | step expr hypothesis =>
      intro lead below leadUnbroken belowUnbroken
      obtain ⟨others, hasLines, count, continued⟩ :=
        exists_hasLines_drawAll hypothesis belowUnbroken
      refine ⟨others, ?_, by rw [count, lineCount_eq], continued⟩
      rw [draw_eq]
      exact (HasLines.singleton
        (newline_notMem_append leadUnbroken expr.newline_notMem_label)).append hasLines

end Expr

/-! ## Drawing at the workbench -/

namespace Workbench

/-- The node of an expression is drawn as the expression is. -/
theorem Node.draw_ofExpr (lead below : String) (expr : Expr) :
    (Node.ofExpr expr).draw lead below = expr.draw lead below := by
  have all (operands : List Expr)
      (each : ∀ operand ∈ operands, ∀ lead below : String,
        (Node.ofExpr operand).draw lead below = operand.draw lead below)
      (below : String) :
      Node.drawAll below (Node.ofExprs operands) = Expr.drawAll below operands := by
    induction operands with
    | nil => rfl
    | cons operand others hypothesis =>
        obtain ⟨head, tail⟩ := List.forall_mem_cons.mp each
        cases others with
        | nil => exact head _ _
        | cons next others =>
            have rest := hypothesis tail
            simp only [Node.ofExprs, Node.drawAll, Expr.drawAll] at rest ⊢
            rw [head, rest]
  induction expr generalizing lead below with
  | number value => rfl
  | symbol name => rfl
  | sum operands hypothesis => rw [Node.ofExpr, Node.draw, all operands hypothesis, Expr.draw]
  | product operands hypothesis => rw [Node.ofExpr, Node.draw, all operands hypothesis, Expr.draw]
  | power base exponent hypothesis => rw [Node.ofExpr, Node.draw, hypothesis]; rfl

end Workbench

namespace Expr

/-- Drawings lose nothing and have one line for each drawn node. Whatever two texts stand in
front of the first line and of the other ones, two well-formed expressions are drawn alike
exactly when they are equal. If these texts hold no line feed, then a drawing is made of
lines that end with a line feed, one for each node and one more for each power, the first
of which starts with the one text and all others with the other. The printers of the
workbench draw in this way. -/
theorem draw_eq_iff_and_line_per_node
    (lead below : String)
    {first second : Expr}
    (firstWellFormed : WellFormed first)
    (secondWellFormed : WellFormed second) :
    (draw lead below first = draw lead below second ↔ first = second) ∧
      ('\n' ∉ lead.toList → '\n' ∉ below.toList →
        ∃ line others,
          draw lead below first = String.join ((line :: others).map (· ++ "\n")) ∧
            (∀ each ∈ line :: others, '\n' ∉ each.toList) ∧
            (line :: others).length =
              first.nodes.length + first.nodes.countP (·.kind = .power) ∧
            (∃ rest, line = lead ++ rest) ∧ ∀ other ∈ others, ∃ rest, other = below ++ rest) ∧
      (Workbench.Stage.treePrinter (.ofText lead) (.text below)).applyTo (.ofExpr first) =
        .ok (.text (draw lead below first)) := by
  refine ⟨⟨?_, fun equal => congrArg _ equal⟩, ?_, ?_⟩
  · intro equal
    have padded : (draw lead below first).toList ++ [] = (draw lead below second).toList ++ [] := by
      rw [equal]
    exact (firstWellFormed.isKnownFromDrawing second lead below [] [] secondWellFormed padded).1
  · intro leadUnbroken belowUnbroken
    obtain ⟨others, hasLines, count, continued⟩ :=
      isDrawnOnLines first lead below leadUnbroken belowUnbroken
    exact ⟨_, others, hasLines.joined, hasLines.unbroken, count, ⟨_, rfl⟩, continued⟩
  · rw [← Workbench.Node.draw_ofExpr]
    rfl

/-- The square root of twice `x`. -/
def rootOfDouble : Expr := power (product [2, symbol .x]) (.reduce 1 2 Nat.two_pos)

/-- Twice the square root of `x`. -/
def doubleOfRoot : Expr := product [2, power (symbol .x) (.reduce 1 2 Nat.two_pos)]

theorem draw_eq_iff_and_line_per_node_rootOfDouble :
    WellFormed rootOfDouble ∧ WellFormed doubleOfRoot ∧
      draw "> " "| " rootOfDouble ≠ draw "> " "| " doubleOfRoot ∧
        ∃ line others, (line :: others).length = 5 ∧
          draw "> " "| " rootOfDouble = String.join ((line :: others).map (· ++ "\n")) := by
  have wellFormed : WellFormed rootOfDouble ∧ WellFormed doubleOfRoot := by decide +kernel
  obtain ⟨first, second⟩ := wellFormed
  obtain ⟨told, lined, -⟩ := draw_eq_iff_and_line_per_node "> " "| " first second
  obtain ⟨line, others, joined, -, count, -⟩ := lined (by decide) (by decide)
  refine ⟨first, second, ?_, line, others, ?_, joined⟩
  · rw [ne_eq, told]
    decide +kernel
  · rw [count]
    decide +kernel

example : draw "> " "| " rootOfDouble = "> ^\n| ├── *\n| │   ├── 2\n| │   ╰── x\n| ╰── 1/2\n" := by
  decide +kernel

end Expr
end ExactAlgebra
