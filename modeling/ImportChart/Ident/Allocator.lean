import ImportChart.Ident.Basic

/-!
# Allocating identifiers

An allocator gives every pair of a kind and a label an identifier of its own. A new pair gets the preferred identifier
of its label; if that is taken, it gets the next free one with a number at its end, and the clash is recorded.
-/

namespace ImportChart.Ident

/-- A new pair whose preferred identifier was taken. -/
structure Collision where
  label : Text
  /-- The label that holds the preferred identifier. -/
  holder : Text
  preferred : Text
  assigned : Text
  deriving DecidableEq, Repr

/-- The identifiers given so far, for kinds of type `κ`. -/
structure Allocator (κ : Type) where
  /-- The identifier of each pair of a kind and a label, the oldest first. -/
  assigned : List ((κ × Text) × Text) := []
  /-- The label that holds each identifier. -/
  holders : List (Text × Text) := []
  /-- The clashes, the oldest first. -/
  collisions : List Collision := []

namespace Allocator

variable {κ : Type} [DecidableEq κ]

/-- The identifier of a pair, if it has one. -/
def get? (a : Allocator κ) (kind : κ) (label : Text) : Option Text := a.assigned.lookup (kind, label)

/-- The label that holds an identifier, if one does. -/
def holder? (a : Allocator κ) (ident : Text) : Option Text := a.holders.lookup ident

/-- The identifier with a number at its end. -/
def numbered (word : Text) (n : Nat) : Text := word ++ '_' :: Text.ofNat n

/-- The least number from two on that makes an identifier free. Among one more number than there are identifiers,
one does. -/
def freeNumber (a : Allocator κ) (word : Text) : Nat :=
  ((List.range' 2 (a.holders.length + 1)).find? fun n => (a.holder? (numbered word n)).isNone).getD 2

/-- Give an identifier to a new pair. -/
def assign (a : Allocator κ) (kind : κ) (label ident : Text) : Allocator κ :=
  { a with assigned := a.assigned ++ [((kind, label), ident)], holders := a.holders ++ [(ident, label)] }

/-- The identifier of a pair, given now if it has none yet. -/
def allocate (a : Allocator κ) (kind : κ) (label : Text) : Text × Allocator κ :=
  match a.get? kind label with
  | some ident => (ident, a)
  | none =>
    let word := preferred label
    match a.holder? word with
    | none => (word, a.assign kind label word)
    | some holder =>
      let ident := numbered word (a.freeNumber word)
      (ident, { a.assign kind label ident with collisions := a.collisions ++ [⟨label, holder, word, ident⟩] })

end Allocator

end ImportChart.Ident
