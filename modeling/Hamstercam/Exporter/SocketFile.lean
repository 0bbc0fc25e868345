import Mathlib.Logic.Function.Basic
import Hamstercam.Text

/-!
# The socket file

`start` and the destructor of `ProgressSocketServer`, translated from `progress_socket_server.cpp`, over
what they change of the world: the file system and the descriptors that are open.

* `FileSystem` — what stands at every path, with `unlink` and `bind`. An `FileEntry` is the socket that this
  server has bound, or anything else, which `unlink` may be able to remove or not.
* `SystemAnswers` — how `socket`, `bind` and `listen` turn out, and the texts of `strerror`.
* `start_elim` — the outcomes of `start`: it fails before the path is touched, after the entry there
  has been removed, or after `bind`, or it succeeds.
* `files_left_alone_iff` — a failed start leaves the file system as it was unless it finds an entry that
  can be removed.
-/

namespace Hamstercam

/-! ## The system -/

/-- What `errno` holds. Source: `progress_socket_server.cpp` -/
abbrev ErrorNumber : Type := Nat

/-- What stands at a path. Source: none: infrastructure -/
inductive FileEntry
  /-- The socket that `bind` of this server has made. -/
  | boundSocket
  /-- Anything else, with what it holds. A directory, or a file in a directory that is closed to the
  program, cannot be removed. -/
  | other (content : List Byte) (removable : Bool)
  deriving DecidableEq

/-- Source: none: infrastructure -/
def FileEntry.removable : FileEntry → Bool
  | .boundSocket => true
  | .other _ removable => removable

/-- The entries of the file system by path. Source: none: infrastructure -/
structure FileSystem where
  /-- What stands at a path. -/
  entry : List Byte → Option FileEntry
  /-- The empty path names nothing. -/
  nameless : entry [] = none

namespace FileSystem

/-- `unlink`, whose result the program does not read.
Source: `progress_socket_server.cpp` `ProgressSocketServer::start` -/
def unlink (files : FileSystem) (path : List Byte) : FileSystem where
  entry := if (files.entry path).any FileEntry.removable then Function.update files.entry path none
    else files.entry
  nameless := by
    split
    · by_cases h : [] = path
      · rw [← h, Function.update_self]
      · rw [Function.update_of_ne h, files.nameless]
    · exact files.nameless

/-- The entry that a successful `bind` makes. The empty path is an address outside of the file system.
Source: `progress_socket_server.cpp` `ProgressSocketServer::start` -/
def addSocket (files : FileSystem) (path : List Byte) : FileSystem where
  entry := if path = [] then files.entry else Function.update files.entry path (some .boundSocket)
  nameless := by
    split
    · exact files.nameless
    · rename_i h
      rw [Function.update_of_ne (Ne.symm h), files.nameless]

/-- `EADDRINUSE`. Source: `progress_socket_server.cpp` `ProgressSocketServer::start` -/
def addressInUse : ErrorNumber := 98

/-- `bind`: it fails where there is an entry, and may fail anywhere else.
Source: `progress_socket_server.cpp` `ProgressSocketServer::start` -/
def bind (files : FileSystem) (path : List Byte) (failure : Option ErrorNumber) :
    Except ErrorNumber FileSystem :=
  if (files.entry path).isSome then .error addressInUse
  else
    match failure with
    | some errno => .error errno
    | none => .ok (files.addSocket path)

end FileSystem

/-- The part of the world that the server changes. Source: none: infrastructure -/
structure World where
  /-- The file system. -/
  files : FileSystem
  /-- The descriptors that are open. -/
  descriptors : List Nat

/-- How the system calls of one `start` turn out.
Source: `progress_socket_server.cpp` `ProgressSocketServer::start` -/
structure SystemAnswers where
  /-- The descriptor of `socket`, or why there is none. -/
  socket : Except ErrorNumber Nat
  /-- Why `bind` to a free path fails, if it does. -/
  bind : Option ErrorNumber
  /-- Why `listen` fails, if it does. -/
  listen : Option ErrorNumber
  /-- `std::strerror` -/
  strerror : ErrorNumber → List Byte

/-! ## The server -/

/-- The members that `start` and the destructor use.
Source: `progress_socket_server.hpp` `ProgressSocketServer` -/
structure ProgressSocketServer where
  /-- `socket_path_` -/
  socketPath : List Byte
  /-- `listen_fd_`; `none` is `-1`. -/
  listenFd : Option Nat := none
  /-- `last_error_` -/
  lastError : List Byte := []

namespace ProgressSocketServer

/-- `socket_path_.c_str()`: the system reads the path up to the first NUL.
Source: `progress_socket_server.cpp` `ProgressSocketServer::start` -/
def cPath (path : List Byte) : List Byte := path.takeWhile (· != 0)

/-- `sizeof(addr.sun_path)`. Source: `progress_socket_server.cpp` `ProgressSocketServer::start` -/
def sunPathSize : Nat := 108

/-- `::close(listen_fd_)`, if there is a descriptor.
Source: `progress_socket_server.cpp` `ProgressSocketServer::start` -/
def closeListen (s : ProgressSocketServer) (w : World) : World :=
  match s.listenFd with
  | some fd => { w with descriptors := w.descriptors.erase fd }
  | none => w

/-- The lambda `fail`. Source: `progress_socket_server.cpp` `ProgressSocketServer::start` -/
def fail (s : ProgressSocketServer) (w : World) (what : List Byte) :
    Bool × ProgressSocketServer × World :=
  (false, { s with lastError := what, listenFd := none }, s.closeListen w)

/-- Source: `progress_socket_server.cpp` `ProgressSocketServer::start` -/
def start (sys : SystemAnswers) (s : ProgressSocketServer) (w : World) :
    Bool × ProgressSocketServer × World :=
  match sys.socket with
  | .error errno =>
      { s with listenFd := none }.fail w (text "socket(AF_UNIX): " ++ sys.strerror errno)
  | .ok fd =>
      let s := { s with listenFd := some fd }
      let w := { w with descriptors := fd :: w.descriptors }
      if sunPathSize ≤ s.socketPath.length then
        s.fail w (text "path is " ++ Decimal.decimal s.socketPath.length ++
          text " bytes; the kernel caps a " ++ text "unix socket path at " ++
          Decimal.decimal (sunPathSize - 1) ++ text ". Use a shorter directory.")
      else
        let w := { w with files := w.files.unlink (cPath s.socketPath) }
        match w.files.bind (cPath s.socketPath) sys.bind with
        | .error errno => s.fail w (text "bind(): " ++ sys.strerror errno)
        | .ok files =>
            let w := { w with files := files }
            match sys.listen with
            | some errno => s.fail w (text "listen(): " ++ sys.strerror errno)
            | none => (true, { s with lastError := [] }, w)

/-- The destructor. Source: `progress_socket_server.cpp` `ProgressSocketServer::~ProgressSocketServer` -/
def destroy (s : ProgressSocketServer) (w : World) : World :=
  let w := s.closeListen w
  { w with files := w.files.unlink (cPath s.socketPath) }

/-- The server as it is constructed.
Source: `progress_socket_server.cpp` `ProgressSocketServer::ProgressSocketServer` -/
def new (path : List Byte) : ProgressSocketServer := { socketPath := path }

end ProgressSocketServer

/-! ## What the calls change -/

namespace FileSystem

variable {files : FileSystem} {path p : List Byte}

/-- There is an entry that `unlink` removes. Source: none: infrastructure -/
def Removable (files : FileSystem) (path : List Byte) : Prop :=
  (files.entry path).any FileEntry.removable = true

instance (files : FileSystem) (path : List Byte) : Decidable (files.Removable path) :=
  inferInstanceAs (Decidable (_ = _))

/-- Source: none: infrastructure -/
theorem Removable.ne_nil (h : files.Removable path) : path ≠ [] := by
  rintro rfl
  unfold Removable at h
  rw [files.nameless] at h
  cases h

/-- Source: none: infrastructure -/
theorem Removable.ne_none (h : files.Removable path) : files.entry path ≠ none := by
  intro hnone
  unfold Removable at h
  rw [hnone] at h
  cases h

/-- Source: none: infrastructure -/
theorem unlink_removable (h : files.Removable path) :
    (files.unlink path).entry = Function.update files.entry path none := if_pos h

/-- Source: none: infrastructure -/
theorem unlink_not_removable (h : ¬ files.Removable path) :
    (files.unlink path).entry = files.entry := if_neg h

/-- Nothing that can be removed is left. Source: none: infrastructure -/
theorem not_removable_unlink : ¬ (files.unlink path).Removable path := by
  intro hagain
  by_cases h : files.Removable path
  · apply hagain.ne_none
    rw [unlink_removable h, Function.update_self]
  · apply h
    unfold Removable at hagain ⊢
    rwa [unlink_not_removable h] at hagain

/-- Removing twice is removing once. Source: none: infrastructure -/
theorem unlink_unlink : ((files.unlink path).unlink path).entry = (files.unlink path).entry :=
  unlink_not_removable not_removable_unlink

/-- A socket that has been bound is removed again. Source: none: infrastructure -/
theorem unlink_addSocket (h : files.entry path = none) :
    ((files.addSocket path).unlink path).entry = files.entry := by
  by_cases hpath : path = []
  · have hnot : ¬ (files.addSocket path).Removable path := fun hr => hr.ne_nil hpath
    rw [unlink_not_removable hnot]
    exact if_pos hpath
  · have hadd : (files.addSocket path).entry =
        Function.update files.entry path (some .boundSocket) := if_neg hpath
    have hr : (files.addSocket path).Removable path := by
      unfold Removable
      rw [hadd, Function.update_self]
      rfl
    rw [unlink_removable hr, hadd, Function.update_idem, ← h, Function.update_eq_self]

/-- Source: none: infrastructure -/
theorem unlink_eq_iff : (files.unlink path).entry path = files.entry path ↔ ¬ files.Removable path := by
  constructor
  · intro h hr
    rw [unlink_removable hr, Function.update_self] at h
    exact hr.ne_none h.symm
  · intro h
    rw [unlink_not_removable h]

/-- The only entry that `bind` makes is the socket. Source: none: infrastructure -/
theorem addSocket_ne (h : (files.addSocket path).entry p ≠ files.entry p) :
    p = path ∧ (files.addSocket path).entry p = some .boundSocket := by
  by_cases hpath : path = []
  · exact absurd (congrFun (if_pos hpath) p) h
  · have hadd : (files.addSocket path).entry =
        Function.update files.entry path (some .boundSocket) := if_neg hpath
    rw [hadd] at h ⊢
    by_cases hp : p = path
    · exact ⟨hp, by rw [hp, Function.update_self]⟩
    · exact absurd (Function.update_of_ne hp _ _) h

end FileSystem

namespace ProgressSocketServer

open FileSystem

variable {sys : SystemAnswers} {path : List Byte} {w : World}

/-- All calls of `start` succeed, where the path is free.
Source: `progress_socket_server.cpp` `ProgressSocketServer::start` -/
def Granted (sys : SystemAnswers) (path : List Byte) : Prop :=
  (∃ fd, sys.socket = .ok fd) ∧ path.length < sunPathSize ∧ sys.bind = none ∧ sys.listen = none

/-- **The outcomes of `start`**: it fails before it touches the path, when it has cleared the path, or
when it has bound the socket; or it succeeds.
Source: `progress_socket_server.cpp` `ProgressSocketServer::start` -/
theorem start_elim {P : Bool × ProgressSocketServer × World → Prop}
    (untouched : ∀ error, error ≠ [] → ¬ Granted sys path → P (false, ⟨path, none, error⟩, w))
    (cleared : ∀ error, error ≠ [] →
      (w.files.unlink (cPath path)).entry (cPath path) ≠ none ∨ ¬ Granted sys path →
      P (false, ⟨path, none, error⟩, { w with files := w.files.unlink (cPath path) }))
    (bound : ∀ error, error ≠ [] → (w.files.unlink (cPath path)).entry (cPath path) = none →
      ¬ Granted sys path → P (false, ⟨path, none, error⟩,
        { w with files := (w.files.unlink (cPath path)).addSocket (cPath path) }))
    (listening : ∀ fd, (w.files.unlink (cPath path)).entry (cPath path) = none → Granted sys path →
      P (true, ⟨path, some fd, []⟩,
        ⟨(w.files.unlink (cPath path)).addSocket (cPath path), fd :: w.descriptors⟩)) :
    P (start sys (new path) w) := by
  have hmessage : ∀ front rest : List Byte, front ≠ [] → front ++ rest ≠ [] :=
    fun front rest h => List.append_ne_nil_of_left_ne_nil h rest
  unfold start new
  cases hsocket : sys.socket with
  | error errno =>
      apply untouched _ (hmessage _ _ (by decide))
      rintro ⟨⟨fd, hfd⟩, -⟩
      rw [hsocket] at hfd
      cases hfd
  | ok fd =>
      simp only [fail, closeListen, List.erase_cons_head]
      by_cases hlong : sunPathSize ≤ path.length
      · rw [if_pos hlong]
        apply untouched _ (by simp [text])
        exact fun h => absurd h.2.1 (Nat.not_lt.mpr hlong)
      · rw [if_neg hlong]
        by_cases hfree : (w.files.unlink (cPath path)).entry (cPath path) = none
        · cases hbind : sys.bind with
          | some errno =>
              simp only [FileSystem.bind, hfree, Option.isSome_none, Bool.false_eq_true, if_false]
              apply cleared _ (hmessage _ _ (by decide))
              refine Or.inr fun h => ?_
              rw [h.2.2.1] at hbind
              cases hbind
          | none =>
              simp only [FileSystem.bind, hfree, Option.isSome_none, Bool.false_eq_true, if_false]
              cases hlisten : sys.listen with
              | some errno =>
                  apply bound _ (hmessage _ _ (by decide)) hfree
                  intro h
                  rw [h.2.2.2] at hlisten
                  cases hlisten
              | none => exact listening fd hfree ⟨⟨fd, hsocket⟩, Nat.not_le.mp hlong, hbind, hlisten⟩
        · have htaken : ((w.files.unlink (cPath path)).entry (cPath path)).isSome = true :=
            Option.isSome_iff_ne_none.mpr hfree
          simp only [FileSystem.bind, htaken, if_true]
          exact cleared _ (hmessage _ _ (by decide)) (Or.inl hfree)

/-- What the destructor leaves after `start` is as it should be: after a failure, the path is as it was
before, no descriptor is open and there is an error text; after a success, the destructor removes
nothing but the socket of this server.
Source: `progress_socket_server.hpp` `ProgressSocketServer` -/
def LeftAlone (path : List Byte) (w : World) (r : Bool × ProgressSocketServer × World) : Prop :=
  let after := r.2.1.destroy r.2.2
  (r.1 = false →
    after.files.entry (cPath path) = w.files.entry (cPath path) ∧
    r.2.1.listenFd = none ∧ after.descriptors = w.descriptors ∧ r.2.1.lastError ≠ []) ∧
  (r.1 = true → ∀ p, after.files.entry p ≠ r.2.2.files.entry p →
    p = cPath path ∧ r.2.2.files.entry p = some .boundSocket)

/-- **When a failed start leaves the file system alone**: there is nothing at the path that can be
removed, or the start does not fail.
Source: `progress_socket_server.cpp` `ProgressSocketServer::start`,
`ProgressSocketServer::~ProgressSocketServer` -/
theorem files_left_alone_iff (sys : SystemAnswers) (path : List Byte) (w : World) :
    LeftAlone path w (start sys (new path) w) ↔
      ¬ w.files.Removable (cPath path) ∨ Granted sys path := by
  refine start_elim (P := fun r => LeftAlone path w r ↔
    ¬ w.files.Removable (cPath path) ∨ Granted sys path) ?_ ?_ ?_ ?_
  · intro error herror hrefused
    simp only [LeftAlone, destroy, closeListen, hrefused, or_false, ne_eq, herror,
      not_false_eq_true, and_true, forall_const, Bool.false_eq_true, false_implies]
    exact unlink_eq_iff
  · intro error herror hrefused
    simp only [LeftAlone, destroy, closeListen, ne_eq, herror, not_false_eq_true, and_true,
      forall_const, Bool.false_eq_true, false_implies, unlink_unlink, unlink_eq_iff]
    obtain htaken | hrefused := hrefused
    · -- what is still there could not be removed
      have hnot : ¬ w.files.Removable (cPath path) := by
        intro hr
        apply htaken
        rw [unlink_removable hr, Function.update_self]
      simp only [hnot, not_false_eq_true, true_or]
    · simp only [hrefused, or_false]
  · intro error herror hfree hrefused
    simp only [LeftAlone, destroy, closeListen, hrefused, or_false, ne_eq, herror,
      not_false_eq_true, and_true, forall_const, Bool.false_eq_true, false_implies,
      unlink_addSocket hfree, unlink_eq_iff]
  · intro fd hfree hgranted
    simp only [LeftAlone, destroy, closeListen, hgranted, or_true, iff_true, Bool.true_eq_false,
      false_implies, true_and, forall_const, unlink_addSocket hfree]
    exact fun p hp => addSocket_ne (Ne.symm hp)

/-- **A file that is lost to a start that never touches it**: the path is too long for a socket, and the
destructor removes what stands there.
Source: `progress_socket_server.cpp` `ProgressSocketServer::~ProgressSocketServer` -/
theorem file_lost :
    ¬ ∀ (sys : SystemAnswers) (path : List Byte) (w : World),
      LeftAlone path w (start sys (new path) w) := by
  intro h
  let path : List Byte := List.replicate 108 97
  let notes : FileSystem :=
    ⟨fun p => if p = path then some (.other (text "notes") true) else none, by decide⟩
  have hleft := (h ⟨.ok 3, none, none, fun _ => []⟩ path ⟨notes, []⟩).1 (by decide)
  exact absurd hleft.1 (by decide)

end ProgressSocketServer

end Hamstercam
