import Intertemporal.Source.Term

/-!
# Time indices

A time index is the current date `t`, or `t` plus or minus an integer. `Term.offset?` reads the
offset of an index and `Term.ofOffset` spells it; shifting a term adds to every offset in it.
-/

namespace Intertemporal.Source.Term

variable {α : Type}

/-- The index of the date `offset` periods from now: `t`, `t + k` or `t - k`. -/
def ofOffset (offset : Int) : Term α :=
  if offset = 0 then time
  else if 0 < offset then .binary .add time (natural offset.toNat)
  else .binary .sub time (natural (-offset).toNat)

/-- The offset of an index of the form `t`, `t + k` or `t - k`. -/
def offset? : Term α → Option Int
  | .name identifier => if identifier == timeName then some 0 else none
  | .binary .add (.name identifier) amount =>
    if identifier == timeName then amount.integer? else none
  | .binary .sub (.name identifier) amount =>
    if identifier == timeName then amount.integer?.map (- ·) else none
  | _ => none

/-- Spelling an offset and reading it gives the offset back. -/
@[simp]
theorem offset?_ofOffset (offset : Int) : (ofOffset offset : Term α).offset? = some offset := by
  unfold ofOffset
  split
  · simp_all [time, offset?]
  · split
    · simp [time, offset?, natural, integer?]
      omega
    · simp [time, offset?, natural, integer?]
      omega

/-- Move one index back by a number of periods. An index that does not mention the current date is
left alone; one that does and is of no supported form is returned as the error. -/
def shiftIndex (periods : Int) (index : Term α) : Except (Term α) (Term α) :=
  if index.mentionsTime then
    match index.offset? with
    | some offset => .ok (ofOffset (offset - periods))
    | none => .error index
  else .ok index

/-- Move each of several indices back by a number of periods. -/
def shiftIndices (periods : Int) : List (Term α) → Except (Term α) (List (Term α))
  | [] => .ok []
  | index :: rest => do
    let index ← shiftIndex periods index
    let rest ← shiftIndices periods rest
    .ok (index :: rest)

mutual

/-- Move every time index of a term back by a number of periods. What stands inside an index is not
shifted again. -/
def shift (periods : Int) : Term α → Except (Term α) (Term α)
  | .literal value => .ok (.literal value)
  | .name identifier => .ok (.name identifier)
  | .unary operator operand => do
    let operand ← operand.shift periods
    .ok (.unary operator operand)
  | .binary operator left right => do
    let left ← left.shift periods
    let right ← right.shift periods
    .ok (.binary operator left right)
  | .subscript value (.tuple items) => do
    let value ← value.shift periods
    let items ← shiftIndices periods items
    .ok (.subscript value (.tuple items))
  | .subscript value index => do
    let value ← value.shift periods
    let index ← shiftIndex periods index
    .ok (.subscript value index)
  | .call function passed named => do
    let function ← function.shift periods
    let passed ← shiftAll periods passed
    let named ← shiftAll periods named
    .ok (.call function passed named)
  | .tuple items => do
    let items ← shiftAll periods items
    .ok (.tuple items)
  | .compound shape parts => do
    let parts ← shiftAll periods parts
    .ok (.compound shape parts)

/-- Move every time index of several terms back by a number of periods. -/
def shiftAll (periods : Int) : List (Term α) → Except (Term α) (List (Term α))
  | [] => .ok []
  | term :: rest => do
    let term ← term.shift periods
    let rest ← shiftAll periods rest
    .ok (term :: rest)

end

/-- The lag of a term by a number of periods. A lag by none is the term itself, whatever its indices
look like. -/
def lag (periods : Int) (term : Term α) : Except (Term α) (Term α) :=
  if periods = 0 then .ok term else term.shift periods

end Intertemporal.Source.Term
