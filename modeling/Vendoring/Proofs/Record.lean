import Vendoring.Proofs.Job

/-!
# Reading a record of calls

The record of a run is its list of calls. What was listed and what was written are sublists of it
(`listedIn`, `writtenIn`), and `Contents.afterAll` is what the local files hold after the calls, for
a store that does as it is told.
-/

set_option autoImplicit false

namespace Vendoring

namespace Call

/-- The address, if the call asks for a listing. -/
def listed? : Call → Option String
  | list url => some url
  | _ => none

/-- The path and the bytes, if the call writes. -/
def written? : Call → Option (LocalPath × ByteArray)
  | write path data => some (path, data)
  | _ => none

end Call

/-- The listings asked for, in order. -/
def listedIn (calls : List Call) : List String := calls.filterMap Call.listed?

/-- What was written and where, in order. -/
def writtenIn (calls : List Call) : List (LocalPath × ByteArray) := calls.filterMap Call.written?

theorem writtenIn_append (calls more : List Call) :
    writtenIn (calls ++ more) = writtenIn calls ++ writtenIn more :=
  List.filterMap_append

/-- What the local files hold; nothing for a path that leads to no file. -/
abbrev Contents := LocalPath → Option ByteArray

namespace Contents

/-- The contents with `data` at a path. -/
def put (files : Contents) (path : LocalPath) (data : ByteArray) : Contents := fun p =>
  if p = path then some data else files p

/-- The contents after a call that had its effect. -/
def after (files : Contents) : Call → Contents
  | .touch path => files.put path ((files path).getD .empty)
  | .write path data => files.put path data
  | _ => files

/-- The contents after all these calls. -/
def afterAll (files : Contents) (calls : List Call) : Contents := calls.foldl after files

theorem afterAll_append (files : Contents) (calls more : List Call) :
    files.afterAll (calls ++ more) = (files.afterAll calls).afterAll more :=
  List.foldl_append

/-- A file that is written holds what is written, whether it was touched before or not. -/
theorem put_put (files : Contents) (path : LocalPath) (data data' : ByteArray) :
    (files.put path data).put path data' = files.put path data' := by
  funext p
  by_cases hp : p = path <;> simp [put, hp]

/-- **The last of several writes to a path is what it holds.** -/
theorem foldl_put (writes : List (LocalPath × ByteArray)) (files : Contents) (path : LocalPath) :
    writes.foldl (fun files write => files.put write.1 write.2) files path =
      ((writes.filter (·.1 = path)).getLast?.map Prod.snd).or (files path) := by
  induction writes generalizing files with
  | nil => rfl
  | cons write writes ih =>
    rw [List.foldl_cons, ih]
    by_cases hp : write.1 = path
    · rw [List.filter_cons_of_pos (by simpa using hp), List.getLast?_cons]
      cases (writes.filter (·.1 = path)).getLast? <;> simp [put, hp]
    · rw [List.filter_cons_of_neg (by simpa using hp)]
      simp [put, Ne.symm hp]

/-- The calls leave the contents as their writes alone would: what is touched is written too. -/
def Settled (calls : List Call) : Prop :=
  ∀ files : Contents, files.afterAll calls =
    (writtenIn calls).foldl (fun files write => files.put write.1 write.2) files

theorem Settled.append {calls more : List Call} (h : Settled calls) (hmore : Settled more) :
    Settled (calls ++ more) := by
  intro files
  rw [afterAll_append, h, hmore, writtenIn_append, List.foldl_append]

theorem settled_flatMap {α : Type} {f : α → List Call} {as : List α}
    (h : ∀ a ∈ as, Settled (f a)) : Settled (as.flatMap f) := by
  induction as with
  | nil => exact fun files => rfl
  | cons a as ih =>
    rw [List.flatMap_cons]
    exact (h a List.mem_cons_self).append (ih fun b hb => h b (List.mem_cons_of_mem a hb))

end Contents

end Vendoring
