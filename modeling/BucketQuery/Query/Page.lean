import BucketQuery.Query.Order

set_option autoImplicit false

/-! # Pages

A request for a page says how many rows to give, how many to skip, and in which order. The
answer carries what the request and the number of all matches say about the page.
-/

namespace BucketQuery

/-- A request for one page. -/
structure PageRequest where
  size : UInt32
  offset : UInt64
  sort : List Order
  deriving DecidableEq

namespace PageRequest

/-- The page with this index, counted from zero. The product of two 32-bit words always fits. -/
def ofIndex (page size : UInt32) (sort : List Order) : PageRequest :=
  ⟨size, size.toUInt64 * page.toUInt64, sort⟩

/-- The page that starts at a row. -/
def atOffset (offset : UInt64) (size : UInt32) (sort : List Order) : PageRequest :=
  ⟨size, offset, sort⟩

/-- The index of the page that the first row lies on; zero when pages are empty. -/
def pageNumber (request : PageRequest) : UInt64 :=
  if request.size = 0 then 0 else request.offset / request.size.toUInt64

end PageRequest

/-- What is known about a page. -/
structure PageMeta where
  page : UInt64
  size : UInt32
  offset : UInt64
  totalElements : UInt64
  totalPages : UInt64
  deriving DecidableEq

/-- How many pages of a size hold a number of elements; none when pages are empty. -/
def pagesFor (total : UInt64) (size : UInt32) : UInt64 :=
  if size = 0 then 0
  else if total % size.toUInt64 = 0 then total / size.toUInt64
  else total / size.toUInt64 + 1

/-- What the request and the number of all matches say about a page. -/
def PageMeta.of (request : PageRequest) (total : UInt64) : PageMeta :=
  { page := request.pageNumber
    size := request.size
    offset := request.offset
    totalElements := total
    totalPages := pagesFor total request.size }

/-- The JSON form of what is known about a page. -/
def PageMeta.toJson (info : PageMeta) : Json :=
  .object
    [("page", .ofUInt64 info.page), ("size", .ofUInt64 info.size.toUInt64),
      ("offset", .ofUInt64 info.offset), ("total_elements", .ofUInt64 info.totalElements),
      ("total_pages", .ofUInt64 info.totalPages)]

/-- One page of records. -/
structure Page (α : Type) where
  content : List α
  info : PageMeta

namespace Page

variable {α : Type}

/-- Whether matches remain after this page. -/
def hasNext (page : Page α) : Bool :=
  page.info.offset + UInt64.ofNat page.content.length < page.info.totalElements

/-- The JSON form of a page, given that of a record. -/
def toJson (record : α → Json) (page : Page α) : Json :=
  .object [("content", .array (page.content.map record)), ("meta", page.info.toJson)]

end Page

end BucketQuery
