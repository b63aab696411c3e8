import XdsService.Foundation.Coercion
import XdsService.Foundation.Program
import XdsService.Foundation.Properties

/-!
# The graph of the bindings

`graphAGLBindings` asks for the daemons and makes a link of each that has a
name; `graph_mobile_patent_suits` replaces the names in the links by the objects
that it keeps in `nodes` under them, and draws both.  Of d3 the model follows
`force.start`, which runs before the drawing is appended and throws where a link
does not end in a node.
-/

namespace XdsService
namespace Graph

open Foundation
open Foundation.Coercion

/-!
## The state
-/

structure NamedLink where
  source : Option Json
  target : Option Json
  type : String

/--
What `nodes[name]` is once it was looked up: a node object, known by the order
of their creation, or what an object inherits under the name.
-/
inductive Endpoint where
  | node (address : Nat)
  | inherited (name : String)
deriving DecidableEq, Repr

structure Link where
  source : Endpoint
  target : Endpoint
  type : String

def Link.ends (link : Link) : List Endpoint := [link.source, link.target]

structure Drawing where
  names : List (Option Json)
  /-- the node objects in `d3.values(nodes)`, in some order -/
  nodes : List Nat
  stray : Bool
  links : List Link

structure Diagram where
  /-- `links` before the names in it are replaced -/
  links : List NamedLink
  nodes : Properties Nat
  /-- the node objects made since `nodes` was emptied, by their `name` -/
  objects : List (Option Json)
  /-- whether d3 left a `weight`, which is NaN, in `Object.prototype` -/
  weighs : Bool
  drawings : List Drawing

def Diagram.empty : Diagram where
  links := []
  nodes := ∅
  objects := []
  weighs := false
  drawings := []

inductive GraphError where
  | typeError
deriving DecidableEq, Repr

abbrev GraphScript (α : Type) : Type := EStateM GraphError Diagram α

def orThrow {α : Type} : Option α -> GraphScript α
  | some value => pure value
  | none => throw GraphError.typeError

section Source

variable (number : Int -> Int -> List Char)

/-!
## graph_mobile_patent_suits
-/

/-- `nodes[name] || (nodes[name] = {name: name})` -/
def nodeNamed (name : Option Json) : GraphScript Endpoint := do
  let key <- orThrow (textOf? number name)
  let diagram <- get
  match diagram.nodes.lookup key with
  | some address => pure (Endpoint.node address)
  | none =>
      if key ∈ objectPrototype then
        pure (Endpoint.inherited key)
      else do
        set { diagram with
          nodes := diagram.nodes.insert key diagram.objects.length
          objects := diagram.objects ++ [name] }
        pure (Endpoint.node diagram.objects.length)

def resolveLink (link : NamedLink) : GraphScript Link := do
  let source <- nodeNamed number link.source
  let target <- nodeNamed number link.target
  pure ⟨source, target, link.type⟩

def resolveLinks : List NamedLink -> GraphScript (List Link)
  | [] => pure []
  | link :: rest => do
      let link <- resolveLink number link
      let rest <- resolveLinks rest
      pure (link :: rest)

def allEnds (links : List Link) : List Endpoint := links.flatMap Link.ends

def Endpoint.isInherited : Endpoint -> Bool
  | node _ => false
  | inherited _ => true

/-- `Object.prototype`, which is `nodes["__proto__"]` -/
def Endpoint.prototype : Endpoint := Endpoint.inherited "__proto__"

/--
`force.start`: first the links are counted in the `weight` of their ends; then
the place of the first node is looked for among the neighbours of all, which are
filed by the `index` of the ends, and only nodes have one.
-/
def forceStart (nodes : Nat) (links : List Link) : GraphScript Unit := do
  modify fun diagram => { diagram with
    weighs := diagram.weighs || decide (Endpoint.prototype ∈ allEnds links) }
  if 0 < nodes && (allEnds links).any Endpoint.isInherited then
    throw GraphError.typeError
  else
    pure ()

def Diagram.stray (diagram : Diagram) : Bool :=
  diagram.weighs && decide ("weight" ∉ diagram.nodes)

/-- `d3.values(nodes)` -/
def Diagram.values (diagram : Diagram) : List Nat :=
  diagram.nodes.entries.map Sigma.snd

def Diagram.drawing (diagram : Diagram) (links : List Link) : Drawing where
  names := diagram.objects
  nodes := diagram.values
  stray := diagram.stray
  links := links

def graphMobilePatentSuits : GraphScript Unit := do
  let diagram <- get
  let links <- resolveLinks number diagram.links
  let diagram <- get
  forceStart (diagram.values.length + diagram.stray.toNat) links
  modify fun started => { started with
    drawings := started.drawings ++ [diagram.drawing links] }

/-!
## graphAGLBindings
-/

def clear : GraphScript Unit :=
  modify fun diagram => { diagram with links := [], nodes := ∅, objects := [] }

/-- The value has members, and inherits `weight` as far as it has none. -/
def inheritsWeight : Option Json -> Bool
  | none => false
  | some Json.null => false
  | some (Json.object members) => (members.lookup "weight").isNone
  | some _ => true

/-- A value that the loop over the response meets. -/
inductive Met where
  | own (elem : Json)
  | weight

/-- The own values, and behind them what is inherited. -/
def met (weighs : Bool) (response : Option Json) : List Met :=
  (elements response).map Met.own ++
    if weighs && inheritsWeight response then [Met.weight] else []

def Met.name : Met -> Option (Option Json)
  | own elem => property "name" (some elem)
  | weight => some none

def pushLink (elem : Met) : GraphScript Unit := do
  let name <- orThrow elem.name
  let skipped <- orThrow (looselyEquals number "null" name)
  if skipped then
    pure ()
  else
    modify fun diagram => { diagram with
      links := diagram.links ++
        [⟨name, some (Json.string "target"), "suit"⟩] }

/-- The function that `graphAGLBindings` hands to `then`. -/
def drawAnswer (res : Option Json) : GraphScript Unit := do
  clear
  let response <- orThrow (property "response" res)
  let diagram <- get
  (met diagram.weighs response).forM (pushLink number)
  graphMobilePatentSuits number

end Source

end Graph
end XdsService
