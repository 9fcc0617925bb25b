import AluBench.Device.Wire
import AluBench.Run

/-!
# Sessions

One device through a sequence of requests. Every request has a reply and leaves the device in a
state from which the next one starts. A wire takes the requests of the device it makes, and three
more on its buses.
-/

namespace AluBench

/-- What serving a request gives: the reply, the state after it, and what was logged. -/
structure Served (ρ σ : Type) where
  reply : ρ
  state : σ
  log : List Log.Event

/-- Serves requests one after the other, each from the state that the one before it left. -/
def serveAll {ι ρ σ : Type} (serve : σ → ι → Served ρ σ) : σ → List ι → List (Served ρ σ)
  | _, [] => []
  | state, request :: requests =>
    let served := serve state request
    served :: serveAll serve served.state requests

namespace Device

inductive Request where
  | evaluate (a b sel : UInt8)
  | run (policy : Policy) (vectors : List TestVector)
  | check (vectors : List TestVector)
  deriving DecidableEq, Repr, Inhabited

inductive Reply where
  | output (out : Output)
  | report (report : Report)
  | verdict (verdict : Except Mismatch Report)

def serve {σ : Type} (d : Device σ) (state : σ) : Request → Served Reply σ
  | .evaluate a b sel =>
    let response := d.evaluate state a b sel
    ⟨.output response.output, response.state, response.log⟩
  | .run policy vectors =>
    let r := d.run policy vectors state
    ⟨.report r.report, r.state, r.log⟩
  | .check vectors =>
    let r := d.run .failFast vectors state
    ⟨.verdict r.report.verdict, r.state, r.log⟩

end Device

namespace Wire

inductive Request where
  | drive (operands selector : UInt8)
  | settle
  | sample
  | device (request : Device.Request)
  deriving DecidableEq, Repr, Inhabited

inductive Reply where
  | done
  | byte (shown : UInt8)
  | device (reply : Device.Reply)

def serve {ω : Type} (w : Wire ω) (state : ω) : Request → Served Reply ω
  | .drive operands selector => ⟨.done, w.drive state operands selector, []⟩
  | .settle => ⟨.done, w.settle state, []⟩
  | .sample =>
    let shown := w.sample state
    ⟨.byte shown.1, shown.2, []⟩
  | .device request =>
    let served := w.toDevice.serve state request
    ⟨.device served.reply, served.state, served.log⟩

end Wire

end AluBench
