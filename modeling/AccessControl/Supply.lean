import AccessControl.Host.Adapter

namespace AccessControl

-- What calls are made of, in the order in which they are drawn: random bits for the identifier, and what
-- the clock tells.
structure Supply where
  bits : Nat → BitVec 122
  clock : Nat → Nat

namespace Supply

def next (p : Supply) : Call :=
  ⟨.ofRandom (p.bits 0), p.clock 0⟩

def rest (p : Supply) : Supply where
  bits n := p.bits (n + 1)
  clock n := p.clock (n + 1)

end Supply

-- A state of what is talked to, with a supply of calls beside it.
structure Stocked (σ : Type) where
  supply : Supply
  state : σ

variable {σ α : Type}

def Call.draw : Run (Stocked σ) Call :=
  fun s => ⟨s.supply.next, [], { s with supply := s.supply.rest }⟩

-- Leaves the supply alone.
def Run.stocked (r : Run σ α) : Run (Stocked σ) α :=
  fun s =>
    let o := r s.state
    ⟨o.value, o.effects, { s with state := o.state }⟩

def Transport.stocked (transport : Transport σ) : Transport (Stocked σ) where
  send a := (transport.send a).stocked

def Client.stocked (client : Client σ) : Client (Stocked σ) :=
  { config := client.config, transport := client.transport.stocked }

def Host.Adapter.stocked (adapter : Adapter σ) : Adapter (Stocked σ) :=
  { client := adapter.client.stocked, configured := adapter.configured }

end AccessControl
