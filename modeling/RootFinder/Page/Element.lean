import RootFinder.Json

/-! What a page shows, piece by piece, and the one request that it makes. -/
namespace RootFinder.Page

inductive Element
  | settings (title layout : String)
  | title (text : String)
  | subheader (text : String)
  | markdown (text : String)
  | form (name : String)
  | textField (label placeholder : String)
  | submitButton (label : String)
  | warning (text : String)
  | error (content : Json)
  | info (text : String)
  | line (text : String)
  | caption (text : String)
  | code (text : String)
  | section (title : String)
  | progress (text : String)
  | request (url : String) (body : Json)
  | stop

end RootFinder.Page
