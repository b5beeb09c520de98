import NbdAttach.Supervisor.Session

/-!
# Resolving endpoints

Before a run the endpoint of its device is worked out from the identity of the device, and what an
earlier run may have left there is removed. Whether that worked is not judged by the removal itself
but by a look afterwards: the place has to be one that can be examined.
-/

namespace NbdAttach.Session

variable {σ : Type}

/-- What the look after the removal says about an endpoint. -/
def judge (endpoint : Endpoint) (found : Except Errno DeviceIdentity) :
    Except RunError Endpoint :=
  match found with
  | .ok _ => .ok endpoint
  | .error e =>
    if e = .noEntry then .ok endpoint
    else if e = .notPermitted ∨ e = .accessDenied then .error (.insufficientPrivilege endpoint.path)
    else .error (.endpoint endpoint.path (.system e))

/-- Removes what is left at an endpoint, as far as it can be removed. -/
def clear (h : Host σ) (endpoint : Endpoint) (s : Session σ) : Session σ :=
  match s.unlink h endpoint.path with
  | (.ok (), s) => s.tell (.leftoverRemoved endpoint.path)
  | (.error e, s) => if e = .noEntry then s else s.tell (.leftoverKept endpoint.path e)

/-- The endpoint of a device, cleared. -/
def resolve (h : Host σ) (socketDir device : Path) (s : Session σ) :
    Except RunError Endpoint × Session σ :=
  match s.stat h device with
  | (.error e, s) => (.error (.deviceLookup device (.system e)), s)
  | (.ok identity, s) =>
    let endpoint := Endpoint.forDevice socketDir identity
    match (s.clear h endpoint).stat h endpoint.path with
    | (.ok found, s) => (judge endpoint (.ok found), s.tell (.stillThere endpoint.path))
    | (.error e, s) => (judge endpoint (.error e), s)

end NbdAttach.Session
