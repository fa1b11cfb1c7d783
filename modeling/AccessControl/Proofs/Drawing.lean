import AccessControl.Session

namespace AccessControl

-- Whether an operation makes a call: a validation is the one of a client that makes none.
def Operation.MakesCall (op : Operation) : Prop :=
  op ≠ .validate

-- A host refuses by itself to decide on nothing, and for nobody.
def HostOperation.MakesCall : HostOperation → Prop
  | .client op => op.MakesCall
  | .checkPolicy command context => command ≠ [] ∧ isIdentifier context.principal = true
  | .list _ _ | .listAllowed _ => True
  | .validateConfig | .version _ => False

variable {σ α β : Type}

theorem Run.map_bind_draw (f : α → β) (draw : Run σ Call) (r : Call → Run σ α) :
    (draw >>= r).map f = draw >>= fun call => (r call).map f := rfl

namespace Client

variable (client : Client σ) (draw : Run σ Call) (principal : String)

theorem evaluate_draws (asset action : String) :
    client.evaluate draw principal asset action =
      draw >>= fun call => client.evaluate call principal asset action := by
  simp only [evaluate, pure_bind]

theorem evaluateBatch_draws (queries : List Query) :
    client.evaluateBatch draw principal queries =
      draw >>= fun call => client.evaluateBatch call principal queries := by
  simp only [evaluateBatch, pure_bind]

theorem searchWith_draws (action : String) (page : Option Page) :
    client.searchWith draw principal action page =
      draw >>= fun call => client.searchWith call principal action page := by
  simp only [searchWith, pure_bind]

-- An operation that makes a call draws it before all else.
theorem perform_draws {op : Operation} (h : op.MakesCall) :
    client.perform draw op = draw >>= fun call => client.perform call op := by
  cases op
  case validate => exact absurd rfl h
  case evaluate principal asset action =>
    simp only [perform, client.evaluate_draws draw, Run.map_bind_draw]
  case check principal asset action =>
    simp only [perform, check, client.evaluate_draws draw, Run.map_bind_draw]
  case batch principal queries =>
    simp only [perform, client.evaluateBatch_draws draw, Run.map_bind_draw]
  case assets principal action =>
    simp only [perform, assets, client.searchWith_draws draw, Run.map_bind_draw]
  case search principal action token pageSize =>
    simp only [perform, search, client.searchWith_draws draw, Run.map_bind_draw]

end Client

namespace Host.Adapter

variable (adapter : Adapter σ) (draw : Run σ Call)

theorem decide_draws (principal program : String) (args : List String) :
    adapter.decide draw principal program args =
      draw >>= fun call => adapter.decide call principal program args := by
  unfold decide
  cases args.filter (!·.isEmpty)
  case nil => simp only [adapter.client.evaluate_draws draw, Run.map_bind_draw]
  case cons => exact adapter.client.evaluateBatch_draws draw ..

theorem checkPolicy_draws {program : String} {args : List String} {context : Context}
    (h : isIdentifier context.principal = true) :
    adapter.checkPolicy draw (program :: args) context =
      draw >>= fun call => adapter.checkPolicy call (program :: args) context := by
  simp only [checkPolicy, h, if_true, adapter.decide_draws draw, bind_assoc]

theorem listAllowed_draws (principal : String) :
    adapter.listAllowed draw principal = draw >>= fun call => adapter.listAllowed call principal := by
  simp only [listAllowed, Client.assets, adapter.client.searchWith_draws draw, Run.map_bind_draw]

theorem perform_draws {op : HostOperation} (h : op.MakesCall) :
    adapter.perform draw op = draw >>= fun call => adapter.perform call op := by
  cases op
  case client op => exact adapter.client.perform_draws draw h
  case checkPolicy command context =>
    cases command
    case nil => exact absurd rfl h.left
    case cons program args =>
      simp only [perform, adapter.checkPolicy_draws draw h.right, Run.map_bind_draw]
  case list command context =>
    cases command
    case none => simp only [perform, list, adapter.listAllowed_draws draw, Run.map_bind_draw]
    case some command =>
      simp only [perform, list, Client.check, adapter.client.evaluate_draws draw, Run.map_bind_draw]
  case listAllowed principal => simp only [perform, adapter.listAllowed_draws draw, Run.map_bind_draw]
  case validateConfig => contradiction
  case version verbose => contradiction

end Host.Adapter
end AccessControl
