import JobNode.Manager.Delivery
import JobNode.Manager.Execution

/-!
# The traffic of a manager

A manager carries out any number of executions and operations side by side on the same jobs, and
delivers messages beside them.  Any of them may take the next step, and any question to the store may
fail.
-/

namespace JobNode.Manager

/-- What callers and work ask of a manager about one job. -/
inductive Operation where
  /-- Record the status of a task. -/
  | updateTask (key : JobKey) (status : Status) (task message : String)
  /-- Store a value. -/
  | updateValue (key : JobKey) (name : String) (bytes : List UInt8)
  /-- Read the job. -/
  | read (key : JobKey)

/-- The steps of an operation; it ends with the job if that was asked for. -/
def Operation.procedure : Operation → Procedure (Except Error (Option Job))
  | updateTask key status task message =>
    (Manager.updateTask key status task message).bind fun answer =>
      .done (answer.map fun _ => none)
  | updateValue key name bytes =>
    (Manager.updateValue key name bytes).bind fun answer => .done (answer.map fun _ => none)
  | read key => (getJob key).bind fun answer => .done (answer.map some)

/-- Everything a manager is busy with. -/
structure Traffic where
  memory : Memory
  executions : List Execution
  /-- What is left of each operation. -/
  operations : List (Procedure (Except Error (Option Job)))
  deliveries : Deliveries

namespace Traffic

/-- Nothing but jobs in memory, and slots for messages. -/
def create (m : Memory) (maxInflight : Nat) : Traffic where
  memory := m
  executions := []
  operations := []
  deliveries := .create maxInflight

/-- The same, unless more slots are asked for than there can be. -/
def create? (m : Memory) (maxInflight : Nat) : Option Traffic :=
  (Deliveries.create? maxInflight).map fun deliveries => { create m maxInflight with deliveries }

/-- A step of one of the parties. -/
inductive Event where
  /-- A request comes in. -/
  | request (r : Request)
  /-- An execution takes a step. -/
  | execution (i : Nat) (e : Execution.Event)
  /-- An operation comes in. -/
  | operate (o : Operation)
  /-- An operation goes one answer further. -/
  | operation (j : Nat) (reply : Procedure.Reply)
  /-- A message starts to be sent. -/
  | send (n : Nat)
  /-- The sending of a message ends. -/
  | deliver (n : Nat) (result : Delivery)

/-- Hand over the message that goes out with a step of an execution, if there is one. -/
def announce (d : Deliveries) (x : Execution) : Execution.Event → Deliveries
  | .finish now =>
    match x.message? now with
    | some message => d.dispatch message
    | none => d
  | _ => d

/-- One step; none if it cannot happen. -/
def apply (s : Traffic) : Event → Option Traffic
  | .request r => some { s with executions := s.executions ++ [.create r] }
  | .execution i e =>
    match s.executions[i]? with
    | some x =>
      (x.apply s.memory e).map fun (y, memory) =>
        { s with
          memory
          executions := s.executions.set i y
          deliveries := announce s.deliveries x e }
    | none => none
  | .operate o => some { s with operations := s.operations ++ [o.procedure] }
  | .operation j reply =>
    match s.operations[j]? with
    | some rest =>
      (rest.advance? s.memory reply).map fun (rest, memory) =>
        { s with memory, operations := s.operations.set j rest }
    | none => none
  | .send n => (s.deliveries.begin? n).map fun deliveries => { s with deliveries }
  | .deliver n result => (s.deliveries.finish? n result).map fun deliveries => { s with deliveries }

end Traffic

end JobNode.Manager
