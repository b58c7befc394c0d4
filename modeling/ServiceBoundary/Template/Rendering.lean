import ServiceBoundary.Template.Evaluation
import ServiceBoundary.Template.Node

/-!
# Rendering

* `Node.render`   the text of a node, and the scope behind it;
* `render`        the text of a template.
-/

namespace ServiceBoundary.Template

/-- the name under which a template knows itself -/
def ownName : String := "tpl"

/-- what comes of another template: there is none, and one that holds itself never ends -/
def embedded (optional : Bool) : Value → Except RenderError Unit
  | .text name =>
    if name = ownName then .error .operation
    else if optional then .ok ()
    else .error .notFound
  | .list names => names.forM fun name =>
    match name with
    | .text _ => if optional then .ok () else .error .notFound
    | _ => .error .operation
  | _ => .error .operation

/-- the place in a loop over these items -/
def loopAt (vs : List Value) (i : Nat) : Value :=
  .loop i vs.length (if i = 0 then .undefined else (vs[i - 1]?).getD .undefined)
    ((vs[i + 1]?).getD .undefined)

namespace Node

mutual

/-- the text of a node, and the scope behind it -/
def render (s : Scope) : Node → Except RenderError (String × Scope)
  | text t => return (t, s)
  | output e => return ((← e.value s).shown, s)
  | choice cond yes no => do if (← cond.value s).isTrue then renderAll s yes else renderAll s no
  | loop name sequence condition body otherwise => do
    let meets (v : Value) : Except RenderError Bool :=
      match condition with
      | none => return true
      | some condition => return (← condition.value ([(name, v)] :: s)).isTrue
    let vs ← (← (← sequence.value s).items).filterM meets
    if vs.isEmpty then renderAll s otherwise
    else
      let (t, inner) ← vs.zipIdx.foldlM (fun (acc : String × Scope) (v, i) => do
        let (t, inner) ← renderAll ((acc.2.assign "loop" (loopAt vs i)).assign name v) body
        return (acc.1 ++ t, inner)) ("", [] :: s)
      return (t, inner.tail)
  | assign name e => return ("", s.assign name (← e.value s))
  | capture name body => do
    let (t, s) ← renderAll s body
    return ("", s.assign name (.text t))
  | embed e optional => do
    embedded optional (← e.value s)
    return ("", s)

/-- the text of a list of nodes, and the scope behind it -/
def renderAll (s : Scope) : List Node → Except RenderError (String × Scope)
  | [] => return ("", s)
  | n :: ns => do
    let (t, s) ← render s n
    let (u, s) ← renderAll s ns
    return (t ++ u, s)

end

end Node

/-- the text of a template, where these names have values -/
def render (source : String) (names : Frame) : Except RenderError String := do
  return (← Node.renderAll [[], names] (← Node.ofTemplate source)).1

end ServiceBoundary.Template
