import XdsService.Foundation.Cells
import XdsService.Foundation.Json
import XdsService.Foundation.Program

/-!
# The linked list

The list of `list.c` lives in a memory of cells; a pointer is NULL or the
address of a cell.  The caller's variable, to which `add_elt` and `add_key`
get a pointer, is part of the memory.
-/

namespace XdsService
namespace Utils

open Foundation
open Foundation.Cells

structure Elt where
  key : String
  value : Json
  next : Option Nat

structure Memory where
  cells : List Elt
  /-- the caller's variable, `*l` -/
  handle : Option Nat

def Memory.start (cells : List Elt) : Memory := ⟨cells, none⟩

/-- The undefined effects of C, and a loop that does not end. -/
inductive ListError where
  | nullPointer
  | danglingPointer
  | endless
deriving DecidableEq, Repr

abbrev ListProgram (α : Type) : Type := EStateM ListError Memory α

def load (p : Option Nat) : ListProgram Elt := do
  match p with
  | none => throw ListError.nullPointer
  | some address => do
      let m <- get
      match m.cells[address]? with
      | none => throw ListError.danglingPointer
      | some elt => pure elt

def store (p : Option Nat) (elt : Elt) : ListProgram Unit := do
  match p with
  | none => throw ListError.nullPointer
  | some address => do
      let m <- get
      if address < m.cells.length then
        set { m with cells := m.cells.set address elt }
      else
        throw ListError.danglingPointer

/-!
## add_elt and add_key
-/

/-- The new element; its fields are written also where malloc gave NULL. -/
def newElt (allocated : Bool) (key : String) (value : Json) :
    ListProgram Nat := do
  if allocated then do
    let m <- get
    set { m with cells := m.cells ++ [(⟨key, value, none⟩ : Elt)] }
    pure m.cells.length
  else
    throw ListError.nullPointer

/--
`while((*l)->next != NULL) { *l = (*l)->next; }`, for at most so many tests: a
list that has more elements than there are cells is circular.
-/
def walkToTail : Nat -> ListProgram Unit
  | 0 => throw ListError.endless
  | tests + 1 => do
      let m <- get
      let elt <- load m.handle
      match elt.next with
      | none => pure ()
      | some next => do
          set { m with handle := some next }
          walkToTail tests

/-- What `add_elt` and `add_key` do with the new element. -/
def linkElt (address : Nat) : ListProgram Unit := do
  let m <- get
  match m.handle with
  | none => set { m with handle := some address }
  | some _ => do
      walkToTail m.cells.length
      let m <- get
      let tail <- load m.handle
      store m.handle { tail with next := some address }

def addNode (allocated : Bool) (key : String) (value : Json) :
    ListProgram Unit := do
  let address <- newElt allocated key value
  linkElt address

def addElt (allocated : Bool) (key : String) (value : Json) :
    ListProgram Unit :=
  addNode allocated key value

def addKey (allocated : Bool) (key : String) : ListProgram Unit :=
  addNode allocated key Json.null

/-!
## set_value and get_elt
-/

/-- The loop of both functions; `none` where it comes to NULL. -/
def advance : Nat -> Option Nat -> ListProgram (Option (Option Nat))
  | 0, l => pure (some l)
  | steps + 1, l => do
      let elt <- load l
      match elt.next with
      | none => pure none
      | some next => advance steps (some next)

def setValue (l : Option Nat) (val : Json) (index : Int) :
    ListProgram Int := do
  let found <- advance index.toNat l
  match found with
  | none => pure (-1)
  | some l => do
      let elt <- load l
      store l { elt with value := val }
      pure 0

def getElt (l : Option Nat) (index : Int) : ListProgram (Option Nat) := do
  let found <- advance index.toNat l
  match found with
  | none => pure none
  | some l => pure l

/-!
## find_elt_from_key and find_key_value
-/

/-- `strcasecmp(a, b) == 0` -/
def strcasecmp (a b : String) : Bool :=
  decide (a.toList.map Char.toLower = b.toList.map Char.toLower)

/-- The loop over the elements, for at most so many of them. -/
def searchKey {alpha : Type} (found : Nat -> Elt -> alpha) (missing : alpha)
    (key : String) : Nat -> Option Nat -> ListProgram alpha
  | _, none => pure missing
  | 0, some _ => throw ListError.endless
  | elements + 1, some address => do
      let elt <- load (some address)
      if strcasecmp elt.key key then
        pure (found address elt)
      else
        searchKey found missing key elements elt.next

def findEltFromKey (l : Option Nat) (key : String) :
    ListProgram (Option Nat) := do
  let m <- get
  searchKey (fun address _ => some address) none key m.cells.length l

def findKeyValue (l : Option Nat) (key : String) : ListProgram Json := do
  let m <- get
  searchKey (fun _ elt => elt.value) Json.null key m.cells.length l

end Utils
end XdsService
