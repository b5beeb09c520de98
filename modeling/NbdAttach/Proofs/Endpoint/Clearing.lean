import NbdAttach.Script
import NbdAttach.Proofs.Endpoint.Paths
import NbdAttach.Proofs.FileSystem.Removal
import NbdAttach.Proofs.Program.Stages

/-!
# Clearing an endpoint

What `Session.resolve` and the removal of a socket do to the files of a host.

* On any host, whatever it answers, the outcome is read off the look after the removal alone
  (`Judged`, `resolve_judged`).
* On a host whose calls on files are those of a file system (`Host.OnFiles`) one entry is touched at
  most, the one with the name of the device in the directory of the sockets, and the second time
  nothing is.

`clearing_law` puts the two together.
-/

namespace NbdAttach

variable {σ : Type}

/-! ### Hosts with files -/

/-- The host answers the calls on files from a file system that is a part of its state. -/
structure Host.OnFiles (h : Host σ) (files : σ → FileSystem) : Prop where
  stat : ∀ path s, ((h.stat path s).1, files (h.stat path s).2) = ((files s).stat path, files s)
  unlink : ∀ path s, ((h.unlink path s).1, files (h.unlink path s).2) = (files s).unlink path
  removeSocket : ∀ path s,
    ((h.removeSocket path s).1, files (h.removeSocket path s).2) = (files s).remove path

theorem Script.onFiles : Script.host.OnFiles Script.fs where
  stat _ _ := rfl
  unlink _ _ := rfl
  removeSocket _ _ := rfl

theorem Machine.onFiles : Machine.host.OnFiles Machine.fs where
  stat _ _ := rfl
  unlink _ _ := rfl
  removeSocket _ _ := rfl

/-! ### The outcome -/

/-- What is said of an endpoint, given what a look at its place has found. -/
structure Judged (endpoint : Endpoint) (found : Except Errno DeviceIdentity)
    (result : Except RunError Endpoint) : Prop where
  there : ∀ other, found = .ok other → result = .ok endpoint
  missing : found = .error .noEntry → result = .ok endpoint
  denied : found = .error .notPermitted ∨ found = .error .accessDenied →
    result = .error (.insufficientPrivilege endpoint.path)
  failed : ∀ e, found = .error e → e ≠ .noEntry → e ≠ .notPermitted → e ≠ .accessDenied →
    result = .error (.endpoint endpoint.path (.system e))

/-- The judgement has one answer for each of these cases. -/
theorem judged_judge (endpoint : Endpoint) (found : Except Errno DeviceIdentity) :
    Judged endpoint found (Session.judge endpoint found) where
  there := by
    rintro other rfl
    rfl
  missing := by
    rintro rfl
    rfl
  denied := by
    rintro (rfl | rfl) <;> rfl
  failed := by
    rintro e rfl hentry hpermitted hdenied
    simp [Session.judge, hentry, hpermitted, hdenied]

namespace FileSystem

/-- The endpoint of a device, cleared, as far as the files are concerned. -/
def resolve (fs : FileSystem) (socketDir device : Path) : Except RunError Endpoint × FileSystem :=
  match fs.stat device with
  | .error e => (.error (.deviceLookup device (.system e)), fs)
  | .ok id =>
    let endpoint := Endpoint.forDevice socketDir id
    let after := (fs.unlink endpoint.path).2
    (Session.judge endpoint (after.stat endpoint.path), after)

variable {fs after : FileSystem} {socketDir device : Path} {endpoint : Endpoint}

theorem resolve_of_error {e : Errno} (hstat : fs.stat device = .error e) (socketDir : Path) :
    fs.resolve socketDir device = (.error (.deviceLookup device (.system e)), fs) := by
  simp only [resolve, hstat]

/-- For any other device the place of its socket is cleared, and then looked at. -/
theorem resolve_of_ok {id : DeviceIdentity} (hstat : fs.stat device = .ok id) (socketDir : Path) :
    fs.resolve socketDir device =
      (Session.judge (.forDevice socketDir id)
        ((fs.unlink (Endpoint.forDevice socketDir id).path).2.stat
          (Endpoint.forDevice socketDir id).path),
        (fs.unlink (Endpoint.forDevice socketDir id).path).2) := by
  simp only [resolve, hstat]

/-- The second time there is nothing left to do, if the device is still found. -/
theorem resolve_again (hresolve : fs.resolve socketDir device = (.ok endpoint, after))
    (hpasses : ∀ loc, fs.locate false endpoint.path = .ok loc → ¬fs.Passes true device loc) :
    after.resolve socketDir device = (.ok endpoint, after) := by
  cases hstat : fs.stat device with
  | error e =>
    rw [resolve_of_error hstat] at hresolve
    cases hresolve
  | ok id =>
    rw [resolve_of_ok hstat] at hresolve
    obtain ⟨hjudge, rfl⟩ := Prod.mk.inj hresolve
    obtain ⟨rfl, -⟩ := Session.judge_eq_ok hjudge
    -- the device is found again, as the way to it does not need what was removed
    have hstat' : (fs.unlink (Endpoint.forDevice socketDir id).path).2.stat device = .ok id := by
      rcases fs.unlink_cases (Endpoint.forDevice socketDir id).path with
        ⟨loc, hlocate, -, hunlink⟩ | ⟨-, e, hunlink⟩
      · rw [hunlink, stat_erase (hpasses loc hlocate), hstat]
      · rw [hunlink, hstat]
    rw [resolve_of_ok hstat', unlink_unlink, hjudge]

end FileSystem

namespace Session

variable {h : Host σ} {files : σ → FileSystem} {socketDir device : Path}

/-- A look is answered from the files, and leaves them as they are. -/
theorem stat_onFiles (hfiles : h.OnFiles files) {path : Path} {s s' : Session σ}
    {found : Except Errno DeviceIdentity} (hstat : s.stat h path = (found, s')) :
    (files s.host).stat path = found ∧ files s'.host = files s.host := by
  obtain ⟨rfl, rfl⟩ := Prod.mk.inj hstat
  obtain ⟨hanswer, hsame⟩ := Prod.mk.inj (hfiles.stat path s.host)
  exact ⟨hanswer.symm, hsame⟩

/-- Clearing an endpoint does to the files what a removal at its path does. -/
theorem clear_onFiles (hfiles : h.OnFiles files) (endpoint : Endpoint) (s : Session σ) :
    files (s.clear h endpoint).host = ((files s.host).unlink endpoint.path).2 := by
  have hunlink := congrArg Prod.snd (hfiles.unlink endpoint.path s.host)
  -- what is said about a failure is not the host's business
  have hhost : (s.clear h endpoint).host = (h.unlink endpoint.path s.host).2 := by
    rcases hanswer : s.unlink h endpoint.path with ⟨e | _, s'⟩
    · obtain ⟨-, rfl⟩ := Prod.mk.inj hanswer
      simp only [clear, hanswer]
      split <;> rfl
    · obtain ⟨-, rfl⟩ := Prod.mk.inj hanswer
      simp only [clear, hanswer]
      rfl
  rw [hhost]
  exact hunlink

/-- What becomes of the files depends on nothing but the files. -/
theorem resolve_onFiles (hfiles : h.OnFiles files) (socketDir device : Path) (s : Session σ) :
    ((s.resolve h socketDir device).1, files (s.resolve h socketDir device).2.host) =
      (files s.host).resolve socketDir device := by
  rcases hstat : s.stat h device with ⟨e | id, s₁⟩
  · obtain ⟨hfound, hsame⟩ := stat_onFiles hfiles hstat
    simp only [resolve_of_error hstat, FileSystem.resolve, hfound, hsame]
  · obtain ⟨hfound, hsame⟩ := stat_onFiles hfiles hstat
    have hclear := clear_onFiles hfiles (.forDevice socketDir id) s₁
    rw [hsame] at hclear
    rcases hlook : (s₁.clear h (.forDevice socketDir id)).stat h
      (Endpoint.forDevice socketDir id).path with ⟨e | other, s₂⟩
    · -- the look at the place sees the files as the removal has left them
      obtain ⟨hafter, hsame₂⟩ := stat_onFiles hfiles hlook
      rw [hclear] at hafter hsame₂
      simp only [resolve, hstat, hlook, FileSystem.resolve, hfound, hafter, hsame₂]
    · obtain ⟨hafter, hsame₂⟩ := stat_onFiles hfiles hlook
      rw [hclear] at hafter hsame₂
      simp only [resolve, hstat, hlook, FileSystem.resolve, hfound, hafter]
      exact congrArg _ hsame₂

/-- On any host the answer to the removal counts for nothing. -/
theorem resolve_judged {s s₁ : Session σ} {id : DeviceIdentity}
    (hstat : s.stat h device = (.ok id, s₁)) (socketDir : Path) :
    ∃ removal found, s₁.Leads [.unlink (Endpoint.forDevice socketDir id).path removal,
        .stat (Endpoint.forDevice socketDir id).path found] (s.resolve h socketDir device).2 ∧
      Judged (.forDevice socketDir id) found (s.resolve h socketDir device).1 := by
  obtain ⟨removal, found, s', hresolve, hleads, -⟩ := resolve_of_ok hstat socketDir
  rw [hresolve]
  exact ⟨removal, found, hleads, judged_judge _ _⟩

end Session

/-! ### The theorem -/

/-- What resolving an endpoint and removing a socket do to files. -/
structure ClearingLaw (socketDir device : Path) : Prop where
  /-- A device that cannot be examined ends it, and nothing else is asked. -/
  unknown : ∀ {σ : Type} (h : Host σ) (s s₁ : Session σ) (e : Errno),
    s.stat h device = (.error e, s₁) →
      s.resolve h socketDir device = (.error (.deviceLookup device (.system e)), s₁)
  /-- Else the look after the removal decides, whatever the removal has answered. -/
  judged : ∀ {σ : Type} (h : Host σ) (s s₁ : Session σ) (id : DeviceIdentity),
    s.stat h device = (.ok id, s₁) →
      ∃ removal found, s₁.Leads [.unlink (Endpoint.forDevice socketDir id).path removal,
          .stat (Endpoint.forDevice socketDir id).path found] (s.resolve h socketDir device).2 ∧
        Judged (.forDevice socketDir id) found (s.resolve h socketDir device).1
  /-- Without the device no file is touched. -/
  untouched : ∀ {σ : Type} (h : Host σ) (files : σ → FileSystem), h.OnFiles files →
    ∀ (s : Session σ) (e : Errno), (files s.host).stat device = .error e →
      (s.resolve h socketDir device).1 = .error (.deviceLookup device (.system e)) ∧
      files (s.resolve h socketDir device).2.host = files s.host
  /-- With it, the place of its socket is cleared as far as it can be, and the outcome is what a
  look at that place then says. -/
  cleared : ∀ {σ : Type} (h : Host σ) (files : σ → FileSystem), h.OnFiles files →
    ∀ (s : Session σ) (id : DeviceIdentity), (files s.host).stat device = .ok id →
      let endpoint := Endpoint.forDevice socketDir id
      let after := files (s.resolve h socketDir device).2.host
      FileSystem.Cleared (files s.host) endpoint.path after ∧
        Judged endpoint (after.stat endpoint.path) (s.resolve h socketDir device).1
  /-- That place is the entry with the name of the device in the directory of the sockets. -/
  entry : ∀ (fs : FileSystem) (id : DeviceIdentity) (loc : Location),
    fs.locate false (Endpoint.forDevice socketDir id).path = .ok loc →
      ∃ dir, fs.locate true (socketDir.join ".") = .ok dir ∧ loc = dir ++ [id.name]
  /-- The second time the endpoint is the same and nothing is touched any more, unless the way to
  the device led through the entry. -/
  again : ∀ {σ : Type} (h : Host σ) (files : σ → FileSystem), h.OnFiles files →
    ∀ (s s₁ : Session σ) (endpoint : Endpoint),
      s.resolve h socketDir device = (.ok endpoint, s₁) →
      (∀ loc, (files s.host).locate false endpoint.path = .ok loc →
        ¬(files s.host).Passes true device loc) →
      (s₁.resolve h socketDir device).1 = .ok endpoint ∧
        files (s₁.resolve h socketDir device).2.host = files s₁.host
  /-- The removal of a socket does no more, and says so only when nothing is left. -/
  removes : ∀ {σ : Type} (h : Host σ) (files : σ → FileSystem), h.OnFiles files →
    ∀ (s : Session σ) (endpoint : Endpoint),
      FileSystem.RemovalLaw endpoint.path (files s.host)
        ((s.removeSocket h endpoint.path).1, files (s.removeSocket h endpoint.path).2.host)

/-- **Clearing an endpoint touches nothing else.** -/
theorem clearing_law (socketDir device : Path) : ClearingLaw socketDir device where
  unknown h s s₁ e hstat := Session.resolve_of_error hstat socketDir
  judged h s s₁ id hstat := Session.resolve_judged hstat socketDir
  untouched h files hfiles s e hstat := by
    have hresolve := Session.resolve_onFiles hfiles socketDir device s
    rw [FileSystem.resolve_of_error hstat] at hresolve
    exact Prod.mk.inj hresolve
  cleared h files hfiles s id hstat := by
    have hresolve := Session.resolve_onFiles hfiles socketDir device s
    rw [FileSystem.resolve_of_ok hstat] at hresolve
    obtain ⟨hresult, hafter⟩ := Prod.mk.inj hresolve
    dsimp only
    rw [hresult, hafter]
    exact ⟨FileSystem.cleared_unlink _ _, judged_judge _ _⟩
  entry fs id loc hlocate := FileSystem.locate_join id.isName_name hlocate
  again h files hfiles s s₁ endpoint hresolve hpasses := by
    have hfirst := Session.resolve_onFiles hfiles socketDir device s
    have hsecond := Session.resolve_onFiles hfiles socketDir device s₁
    rw [hresolve] at hfirst
    rw [FileSystem.resolve_again hfirst.symm hpasses] at hsecond
    exact Prod.mk.inj hsecond
  removes h files hfiles s endpoint := by
    have hremove := hfiles.removeSocket endpoint.path s.host
    have hlaw := FileSystem.removal_law (files s.host) endpoint.path
    rw [← hremove] at hlaw
    exact hlaw

/-! ### A dangling link in the way -/

open FileSystem

/-- A link to nothing at the place of the socket for `/dev/sda`. -/
def danglingSocket : FileSystem where
  device := 46
  nodes := [([], ⟨1, .directory {}⟩), (["dev"], ⟨2, .directory {}⟩),
    (["dev", "sda"], ⟨7, .file .empty false⟩), (["run"], ⟨3, .directory {}⟩),
    (["run", "000000000000002e_0000000000000007"], ⟨9, .link ⟨"/nowhere"⟩⟩)]
  nextNumber := 10
  workingDir := []

/-- The way to the device stays in its own directory. -/
theorem danglingSocket_passes_iff {loc : Location} :
    danglingSocket.Passes true ⟨"/dev/sda"⟩ loc ↔
      loc = [] ∨ loc = ["dev"] ∨ loc = ["dev", "sda"] := by
  have hnames : pathNames ⟨"/dev/sda"⟩ = ["", "dev", "sda"] := by cbv
  have habsolute : isAbsolute ⟨"/dev/sda"⟩ = true := by cbv
  have hdev : danglingSocket.find? ["dev"] = some ⟨2, .directory {}⟩ := rfl
  have hsda : danglingSocket.find? ["dev", "sda"] = some ⟨7, .file .empty false⟩ := rfl
  rw [Passes, hnames, if_pos habsolute, looksAt_stay_iff (.inl rfl),
    looksAt_down_iff ⟨by decide, by decide⟩ hdev (by simp),
    looksAt_down_iff ⟨by decide, by decide⟩ hsda (by simp), looksAt_nil_iff]
  rfl

/-- The place of that socket. -/
def sdaSocket : Path := ⟨"/run/000000000000002e_0000000000000007"⟩

theorem forDevice_sda : Endpoint.forDevice ⟨"/run"⟩ { device := 46, inode := 7 } = ⟨sdaSocket⟩ := by
  cbv

theorem danglingSocket_stat : danglingSocket.stat ⟨"/dev/sda"⟩ = .ok { device := 46, inode := 7 } :=
  rfl

theorem danglingSocket_locate : danglingSocket.locate false sdaSocket =
    .ok ["run", "000000000000002e_0000000000000007"] :=
  rfl

theorem danglingSocket_after :
    (danglingSocket.erase ["run", "000000000000002e_0000000000000007"]).stat sdaSocket =
      .error .noEntry :=
  rfl

/-- The link goes away, where it leads to plays no part, and that is all. -/
theorem danglingSocket_clearing_law :
    ∃ first second : Session Script,
      Session.resolve Script.host ⟨"/run"⟩ ⟨"/dev/sda"⟩
        { host := { fs := danglingSocket, home := ⟨"/"⟩, socket := sdaSocket } } =
        (.ok ⟨sdaSocket⟩, first) ∧
      first.host.fs = danglingSocket.erase ["run", "000000000000002e_0000000000000007"] ∧
      first.resolve Script.host ⟨"/run"⟩ ⟨"/dev/sda"⟩ = (.ok ⟨sdaSocket⟩, second) ∧
      second.host.fs = first.host.fs := by
  have hunlink := unlink_of_removable danglingSocket_locate ⟨⟨_, rfl, nofun⟩, rfl⟩
  have hfirst := Session.resolve_onFiles Script.onFiles ⟨"/run"⟩ ⟨"/dev/sda"⟩
    { host := { fs := danglingSocket, home := ⟨"/"⟩, socket := sdaSocket } }
  rw [FileSystem.resolve_of_ok danglingSocket_stat, forDevice_sda, hunlink, danglingSocket_after]
    at hfirst
  generalize hresolve : Session.resolve Script.host ⟨"/run"⟩ ⟨"/dev/sda"⟩
    { host := { fs := danglingSocket, home := ⟨"/"⟩, socket := sdaSocket } } = first at hfirst ⊢
  obtain ⟨result, s₁⟩ := first
  obtain ⟨hresult, hfs⟩ := Prod.mk.inj hfirst
  dsimp only at hresult hfs
  subst hresult
  -- the way to the device does not lead through the link
  have hother : ∀ loc, danglingSocket.locate false sdaSocket = .ok loc →
      ¬danglingSocket.Passes true ⟨"/dev/sda"⟩ loc := by
    intro loc hlocate hpasses
    obtain rfl := Except.ok.inj (danglingSocket_locate.symm.trans hlocate)
    exact absurd (danglingSocket_passes_iff.mp hpasses) (by decide)
  obtain ⟨hagain, hsame⟩ := (clearing_law ⟨"/run"⟩ ⟨"/dev/sda"⟩).again Script.host Script.fs
    Script.onFiles _ _ _ hresolve hother
  exact ⟨_, _, rfl, hfs, Prod.ext hagain rfl, hsame⟩

end NbdAttach
