import ServiceBoundary.Complaint
import ServiceBoundary.Library
import ServiceBoundary.Template.Rendering
import ServiceBoundary.Toml.Tree

/-!
# Engines

The library that the program runs with. Of templates it knows what their language is used for most;
the command line, the documents and the layout of errors are as they are described.
-/

namespace ServiceBoundary

instance : Library where
  options := Options.ofArguments
  document := Toml.read
  template := Template.render
  complaint := Complaint.text
  complaint_shows := Complaint.shows

end ServiceBoundary
