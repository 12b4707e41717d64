import HttpService.Site

/-!
# File stores

Whoever keeps the file tree. An answer may take its time.
-/

namespace HttpService

structure FileStore where
  stat : String → Act Site (Except Failure FileInfo)
  list : String → Act Site (Except Failure (List FileInfo))
  makeDirectory : String → Act Site (Except Failure FileInfo)
  remove : String → Act Site (Except Failure Unit)

/-- The store of the site's own namespace. -/
def FileStore.local : FileStore where
  stat path := Act.update fun s => (s.files.stat path, s)
  list path := Act.update fun s => (s.files.list path, s)
  makeDirectory path := Act.update fun s =>
    let (answer, files) := s.files.makeDirectory path
    (answer, { s with files := files })
  remove path := Act.update fun s =>
    let (answer, files) := s.files.remove path
    (answer, { s with files := files })

end HttpService
