import Mathlib.Data.List.Infix
import Mathlib.Logic.Function.Basic

/-! Resources that one party takes and gives back. Moves are in turn if nothing is taken while it is held
and nothing is given back that is not. Once nothing is held, every take has met its give. -/

namespace RidFirmware.Lib

inductive Move (Resource : Type*) where
  | take (resource : Resource)
  | give (resource : Resource)
  deriving DecidableEq

namespace Move

variable {Resource : Type*}

def resource : Move Resource → Resource
  | .take resource => resource
  | .give resource => resource

/-- A move that may be made: a resource that is not held is taken, or one that is held is given back. -/
def Fits (held : Resource → Bool) : Move Resource → Prop
  | .take resource => held resource = false
  | .give resource => held resource = true

variable [DecidableEq Resource]

def update (held : Resource → Bool) : Move Resource → Resource → Bool
  | .take resource => Function.update held resource true
  | .give resource => Function.update held resource false

theorem update_other (held : Resource → Bool) {move : Move Resource} {resource : Resource}
    (other : move.resource ≠ resource) : move.update held resource = held resource := by
  cases move with
  | take taken => exact Function.update_of_ne other.symm _ _
  | give given => exact Function.update_of_ne other.symm _ _

end Move

section
variable {Resource : Type*} [DecidableEq Resource]

def heldAfter (moves : List (Move Resource)) : Resource → Bool := moves.foldl Move.update fun _ => false

/-- Every move is one that may be made where it stands. -/
def InTurn (moves : List (Move Resource)) : Prop :=
  ∀ before move after, moves = before ++ move :: after → move.Fits (heldAfter before)

/-- Every take is followed by a give of the same resource, and by no other move of it before that. -/
def Settled (moves : List (Move Resource)) : Prop :=
  ∀ before resource after, moves = before ++ .take resource :: after →
    ∃ meanwhile rest, after = meanwhile ++ .give resource :: rest ∧
      ∀ move ∈ meanwhile, move.resource ≠ resource

variable {moves : List (Move Resource)}

@[simp] theorem heldAfter_snoc (moves : List (Move Resource)) (move : Move Resource) :
    heldAfter (moves ++ [move]) = move.update (heldAfter moves) := by
  unfold heldAfter
  rw [List.foldl_append]
  rfl

theorem InTurn.snoc (inTurn : InTurn moves) {move : Move Resource} (fits : move.Fits (heldAfter moves)) :
    InTurn (moves ++ [move]) := by
  intro before other after split
  rcases List.eq_nil_or_concat after with rfl | ⟨rest, last, rfl⟩
  · obtain ⟨rfl, same⟩ := List.append_inj' split rfl
    rw [← List.singleton_inj.mp same]
    exact fits
  · rw [List.concat_eq_append, ← List.cons_append, ← List.append_assoc] at split
    exact inTurn before other rest (List.append_inj' split rfl).1

theorem InTurn.given (resource : Resource) (before : List (Move Resource)) {after : List (Move Resource)}
    (inTurn : InTurn (before ++ after)) (held : heldAfter before resource = true)
    (gone : heldAfter (before ++ after) resource = false) :
    ∃ meanwhile rest, after = meanwhile ++ .give resource :: rest ∧
      ∀ move ∈ meanwhile, move.resource ≠ resource := by
  induction after generalizing before with
  | nil =>
    rw [List.append_nil, held] at gone
    cases gone
  | cons move rest ih =>
    have fits := inTurn before move rest rfl
    by_cases same : move.resource = resource
    · cases move with
      | take taken =>
        have free : heldAfter before taken = false := fits
        rw [show taken = resource from same, held] at free
        cases free
      | give given =>
        rw [← show given = resource from same]
        exact ⟨[], rest, rfl, nofun⟩
    · rw [← List.singleton_append, ← List.append_assoc] at inTurn gone
      have still : heldAfter (before ++ [move]) resource = true := by
        rw [heldAfter_snoc, Move.update_other _ same, held]
      obtain ⟨meanwhile, later, split, others⟩ := ih (before ++ [move]) inTurn still gone
      refine ⟨move :: meanwhile, later, congrArg (move :: ·) split, ?_⟩
      intro other member
      rcases List.mem_cons.mp member with rfl | member
      · exact same
      · exact others other member

/-- Moves that are in turn and leave some resources held. -/
structure Ledger (moves : List (Move Resource)) (held : Resource → Bool) : Prop where
  inTurn : InTurn moves
  held : heldAfter moves = held

namespace Ledger

variable {held : Resource → Bool} {resource : Resource}

theorem start : Ledger ([] : List (Move Resource)) fun _ => false := by
  refine ⟨?_, rfl⟩
  intro before move after split
  cases before <;> cases split

theorem take (ledger : Ledger moves held) (free : held resource = false) :
    Ledger (moves ++ [.take resource]) (Function.update held resource true) := by
  constructor
  · apply ledger.inTurn.snoc
    rw [ledger.held]
    exact free
  · rw [heldAfter_snoc, ledger.held]
    rfl

theorem give (ledger : Ledger moves held) (owned : held resource = true) :
    Ledger (moves ++ [.give resource]) (Function.update held resource false) := by
  constructor
  · apply ledger.inTurn.snoc
    rw [ledger.held]
    exact owned
  · rw [heldAfter_snoc, ledger.held]
    rfl

/-- Where nothing is held at the end, nothing was kept. -/
theorem settled (ledger : Ledger moves fun _ => false) : Settled moves := by
  intro before resource after split
  rw [← List.singleton_append, ← List.append_assoc] at split
  apply InTurn.given resource (before ++ [.take resource])
  · rw [← split]
    exact ledger.inTurn
  · rw [heldAfter_snoc]
    exact Function.update_self resource _ _
  · rw [← split, ledger.held]

end Ledger

end

end RidFirmware.Lib
