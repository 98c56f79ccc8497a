/-!
# Procedures

A procedure is what a task does, as a tree: it is done, or it makes a request of its surroundings
and goes on with the reply. It says nothing of who answers, nor of what other tasks do between two
requests.

* `Protocol`: the requests that can be made, and the replies to each of them.
* `Procedure`: a procedure over a protocol.
* `Procedure.expand`: carries out every request by a procedure over another protocol.
* `Procedure.closing`: a procedure with something that is done at its end, however it ends.
* `Procedure.run`: the result if a state answers all requests.
-/

namespace EntitySearch

/-- Requests and the replies to them. -/
structure Protocol where
  Request : Type
  Reply : Request → Type

namespace Protocol

/-- The requests of two protocols. -/
def or (p q : Protocol) : Protocol where
  Request := p.Request ⊕ q.Request
  Reply
    | .inl request => p.Reply request
    | .inr request => q.Reply request

end Protocol

/-- What a task does. -/
inductive Procedure (p : Protocol) (α : Type) where
  /-- Ends with a result. -/
  | done (result : α)
  /-- Makes a request and goes on with the reply. -/
  | ask (request : p.Request) (next : p.Reply request → Procedure p α)

namespace Procedure

variable {p q : Protocol} {α β σ : Type}

/-- One procedure after the other. -/
def bind : Procedure p α → (α → Procedure p β) → Procedure p β
  | .done result, f => f result
  | .ask request next, f => .ask request fun reply => (next reply).bind f

instance : Monad (Procedure p) where
  pure := .done
  bind := .bind

/-- A single request. -/
def request (request : p.Request) : Procedure p (p.Reply request) := .ask request .done

/-- Carries out every request by a procedure. -/
def expand (carryOut : (request : p.Request) → Procedure q (p.Reply request)) :
    Procedure p α → Procedure q α
  | .done result => .done result
  | .ask request next => (carryOut request).bind fun reply => (next reply).expand carryOut

/-- Puts a procedure in front of every request of a kind. -/
def before (first : Procedure p Unit) (isLast : p.Request → Bool) :
    Procedure p α → Procedure p α
  | .done result => .done result
  | .ask request next =>
    let rest := Procedure.ask request fun reply => before first isLast (next reply)
    if isLast request then first.bind fun _ => rest else rest

/-- A procedure with something that is done at its end: `last` when it has a result, and `broken`
in front of a request that breaks it off. -/
def closing (body : Procedure p α) (isLast : p.Request → Bool) (last : α → Procedure p Unit)
    (broken : Procedure p Unit) : Procedure p α :=
  (before broken isLast body).bind fun result => (last result).bind fun _ => .done result

/-- A procedure among more requests. -/
def left : Procedure p α → Procedure (p.or q) α
  | .done result => .done result
  | .ask request next => .ask (.inl request) fun reply => (next reply).left

/-- A procedure among more requests. -/
def right : Procedure q α → Procedure (p.or q) α
  | .done result => .done result
  | .ask request next => .ask (.inr request) fun reply => (next reply).right

/-- The result of a procedure, and the state after it, if a state answers its requests one after
the other. There is none if a request has no answer. -/
def run (serve? : σ → (request : p.Request) → Option (p.Reply request × σ)) (state : σ) :
    Procedure p α → Option (α × σ)
  | .done result => some (result, state)
  | .ask request next =>
    match serve? state request with
    | some (reply, state) => run serve? state (next reply)
    | none => none

end Procedure

end EntitySearch
