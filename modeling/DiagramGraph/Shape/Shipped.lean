import DiagramGraph.Shape.Directory

/-!
# The shapes that come with the service

Four kinds of diagrams have a shape from the start. They are kept here as they
stand in the folder of the service.
-/

namespace DiagramGraph.Shape

open DiagramGraph.Storage DiagramGraph.Text

/-- The lines of the shape for class diagrams. -/
def classShapeLines : List String :=
  [ "@prefix sh:   <http://www.w3.org/ns/shacl#> .",
    "@prefix xsd:  <http://www.w3.org/2001/XMLSchema#> .",
    "@prefix uml:  <http://example.org/uml#> .",
    "",
    "uml:ClassDiagramShape",
    "    a sh:NodeShape ;",
    "    sh:targetClass uml:ClassDiagram ;",
    "    sh:property [",
    "        sh:path uml:elementCount ;",
    "        sh:datatype xsd:integer ;",
    "        sh:minCount 1 ;",
    "        sh:maxCount 1 ;",
    "    ] ;",
    "    sh:property [",
    "        sh:path uml:relationshipCount ;",
    "        sh:datatype xsd:integer ;",
    "        sh:minCount 1 ;",
    "        sh:maxCount 1 ;",
    "    ] .",
    "",
    "uml:ClassShape",
    "    a sh:NodeShape ;",
    "    sh:targetClass uml:Class, uml:Interface ;",
    "    sh:property [",
    "        sh:path uml:name ;",
    "        sh:datatype xsd:string ;",
    "        sh:minCount 1 ;",
    "        sh:maxCount 1 ;",
    "    ] ;",
    "    sh:property [",
    "        sh:path uml:abstract ;",
    "        sh:datatype xsd:boolean ;",
    "        sh:maxCount 1 ;",
    "    ] ;",
    "    sh:property [",
    "        sh:path uml:stereotype ;",
    "        sh:datatype xsd:string ;",
    "        sh:maxCount 1 ;",
    "    ] ;",
    "    sh:property [",
    "        sh:path uml:attributes ;",
    "        sh:node uml:AttributeShape ;",
    "    ] ;",
    "    sh:property [",
    "        sh:path uml:methods ;",
    "        sh:node uml:MethodShape ;",
    "    ] .",
    "",
    "uml:EnumShape",
    "    a sh:NodeShape ;",
    "    sh:targetClass uml:Enum ;",
    "    sh:property [",
    "        sh:path uml:name ;",
    "        sh:datatype xsd:string ;",
    "        sh:minCount 1 ;",
    "    ] ;",
    "    sh:property [",
    "        sh:path uml:values ;",
    "        sh:datatype xsd:string ;",
    "    ] .",
    "",
    "uml:AttributeShape",
    "    a sh:NodeShape ;",
    "    sh:targetClass uml:Attribute ;",
    "    sh:property [",
    "        sh:path uml:name ;",
    "        sh:datatype xsd:string ;",
    "        sh:minCount 1 ;",
    "        sh:maxCount 1 ;",
    "    ] ;",
    "    sh:property [",
    "        sh:path uml:datatype ;",
    "        sh:datatype xsd:string ;",
    "        sh:maxCount 1 ;",
    "    ] ;",
    "    sh:property [",
    "        sh:path uml:visibility ;",
    "        sh:in ( \"public\" \"private\" \"protected\" \"package\" ) ;",
    "        sh:maxCount 1 ;",
    "    ] ;",
    "    sh:property [",
    "        sh:path uml:defaultValue ;",
    "        sh:datatype xsd:string ;",
    "        sh:maxCount 1 ;",
    "    ] .",
    "",
    "uml:MethodShape",
    "    a sh:NodeShape ;",
    "    sh:targetClass uml:Method ;",
    "    sh:property [",
    "        sh:path uml:name ;",
    "        sh:datatype xsd:string ;",
    "        sh:minCount 1 ;",
    "        sh:maxCount 1 ;",
    "    ] ;",
    "    sh:property [",
    "        sh:path uml:parameters ;",
    "        sh:datatype xsd:string ;",
    "        sh:maxCount 1 ;",
    "    ] ;",
    "    sh:property [",
    "        sh:path uml:returnType ;",
    "        sh:datatype xsd:string ;",
    "        sh:maxCount 1 ;",
    "    ] ;",
    "    sh:property [",
    "        sh:path uml:visibility ;",
    "        sh:in ( \"public\" \"private\" \"protected\" \"package\" ) ;",
    "        sh:maxCount 1 ;",
    "    ] .",
    "",
    "uml:ClassRelationshipShape",
    "    a sh:NodeShape ;",
    "    sh:targetClass uml:Association, uml:Extension, uml:Implementation,",
    "        uml:Composition, uml:Aggregation, uml:Dependency ;",
    "    sh:property [",
    "        sh:path uml:source ;",
    "        sh:nodeKind sh:IRI ;",
    "        sh:minCount 1 ;",
    "        sh:maxCount 1 ;",
    "    ] ;",
    "    sh:property [",
    "        sh:path uml:target ;",
    "        sh:nodeKind sh:IRI ;",
    "        sh:minCount 1 ;",
    "        sh:maxCount 1 ;",
    "    ] ;",
    "    sh:property [",
    "        sh:path uml:sourceCardinality ;",
    "        sh:datatype xsd:string ;",
    "        sh:maxCount 1 ;",
    "    ] ;",
    "    sh:property [",
    "        sh:path uml:targetCardinality ;",
    "        sh:datatype xsd:string ;",
    "        sh:maxCount 1 ;",
    "    ] ;",
    "    sh:property [",
    "        sh:path uml:label ;",
    "        sh:datatype xsd:string ;",
    "        sh:maxCount 1 ;",
    "    ] .",
    "" ]

/-- The lines of the shape for entity diagrams. -/
def entityShapeLines : List String :=
  [ "@prefix sh:   <http://www.w3.org/ns/shacl#> .",
    "@prefix xsd:  <http://www.w3.org/2001/XMLSchema#> .",
    "@prefix uml:  <http://example.org/uml#> .",
    "",
    "uml:ERDDiagramShape",
    "    a sh:NodeShape ;",
    "    sh:targetClass uml:ERDDiagram ;",
    "    sh:property [",
    "        sh:path uml:elementCount ;",
    "        sh:datatype xsd:integer ;",
    "        sh:minCount 1 ;",
    "    ] .",
    "",
    "uml:EntityShape",
    "    a sh:NodeShape ;",
    "    sh:targetClass uml:Entity ;",
    "    sh:property [",
    "        sh:path uml:name ;",
    "        sh:datatype xsd:string ;",
    "        sh:minCount 1 ;",
    "        sh:maxCount 1 ;",
    "    ] ;",
    "    sh:property [",
    "        sh:path uml:attributes ;",
    "        sh:node uml:EntityAttributeShape ;",
    "    ] .",
    "",
    "uml:EntityAttributeShape",
    "    a sh:NodeShape ;",
    "    sh:targetClass uml:Attribute ;",
    "    sh:property [",
    "        sh:path uml:name ;",
    "        sh:datatype xsd:string ;",
    "        sh:minCount 1 ;",
    "    ] ;",
    "    sh:property [",
    "        sh:path uml:datatype ;",
    "        sh:datatype xsd:string ;",
    "        sh:maxCount 1 ;",
    "    ] .",
    "",
    "uml:EntityRelationshipShape",
    "    a sh:NodeShape ;",
    "    sh:targetClass uml:Relationship ;",
    "    sh:property [",
    "        sh:path uml:source ;",
    "        sh:nodeKind sh:IRI ;",
    "        sh:minCount 1 ;",
    "        sh:maxCount 1 ;",
    "    ] ;",
    "    sh:property [",
    "        sh:path uml:target ;",
    "        sh:nodeKind sh:IRI ;",
    "        sh:minCount 1 ;",
    "        sh:maxCount 1 ;",
    "    ] ;",
    "    sh:property [",
    "        sh:path uml:sourceCardinality ;",
    "        sh:in ( \"1\" \"0..1\" \"0..*\" \"1..*\" \"*\" ) ;",
    "        sh:minCount 1 ;",
    "        sh:maxCount 1 ;",
    "    ] ;",
    "    sh:property [",
    "        sh:path uml:targetCardinality ;",
    "        sh:in ( \"1\" \"0..1\" \"0..*\" \"1..*\" \"*\" ) ;",
    "        sh:minCount 1 ;",
    "        sh:maxCount 1 ;",
    "    ] ;",
    "    sh:property [",
    "        sh:path uml:label ;",
    "        sh:datatype xsd:string ;",
    "        sh:maxCount 1 ;",
    "    ] .",
    "" ]

/-- The lines of the shape for sequence diagrams. -/
def sequenceShapeLines : List String :=
  [ "@prefix sh:   <http://www.w3.org/ns/shacl#> .",
    "@prefix xsd:  <http://www.w3.org/2001/XMLSchema#> .",
    "@prefix uml:  <http://example.org/uml#> .",
    "",
    "uml:SequenceDiagramShape",
    "    a sh:NodeShape ;",
    "    sh:targetClass uml:SequenceDiagram ;",
    "    sh:property [",
    "        sh:path uml:elementCount ;",
    "        sh:datatype xsd:integer ;",
    "        sh:minCount 1 ;",
    "    ] ;",
    "    sh:property [",
    "        sh:path uml:relationshipCount ;",
    "        sh:datatype xsd:integer ;",
    "        sh:minCount 1 ;",
    "    ] .",
    "",
    "uml:ParticipantShape",
    "    a sh:NodeShape ;",
    "    sh:targetClass uml:Participant, uml:Actor, uml:Boundary, uml:Control,",
    "        uml:Entity, uml:Database ;",
    "    sh:property [",
    "        sh:path uml:name ;",
    "        sh:datatype xsd:string ;",
    "        sh:minCount 1 ;",
    "        sh:maxCount 1 ;",
    "    ] ;",
    "    sh:property [",
    "        sh:path uml:alias ;",
    "        sh:datatype xsd:string ;",
    "        sh:maxCount 1 ;",
    "    ] ;",
    "    sh:property [",
    "        sh:path uml:participantType ;",
    "        sh:in ( \"Participant\" \"Boundary\" \"Control\" \"Database\" ) ;",
    "        sh:maxCount 1 ;",
    "    ] .",
    "",
    "uml:MessageShape",
    "    a sh:NodeShape ;",
    "    sh:targetClass uml:Message ;",
    "    sh:property [",
    "        sh:path uml:source ;",
    "        sh:nodeKind sh:IRI ;",
    "        sh:minCount 1 ;",
    "        sh:maxCount 1 ;",
    "    ] ;",
    "    sh:property [",
    "        sh:path uml:target ;",
    "        sh:nodeKind sh:IRI ;",
    "        sh:minCount 1 ;",
    "        sh:maxCount 1 ;",
    "    ] ;",
    "    sh:property [",
    "        sh:path uml:message ;",
    "        sh:datatype xsd:string ;",
    "        sh:maxCount 1 ;",
    "    ] ;",
    "    sh:property [",
    "        sh:path uml:synchronous ;",
    "        sh:datatype xsd:boolean ;",
    "        sh:minCount 1 ;",
    "        sh:maxCount 1 ;",
    "    ] .",
    "" ]

/-- The lines of the shape for use-case diagrams. -/
def useCaseShapeLines : List String :=
  [ "@prefix sh:   <http://www.w3.org/ns/shacl#> .",
    "@prefix xsd:  <http://www.w3.org/2001/XMLSchema#> .",
    "@prefix uml:  <http://example.org/uml#> .",
    "",
    "uml:UseCaseDiagramShape",
    "    a sh:NodeShape ;",
    "    sh:targetClass uml:UseCaseDiagram ;",
    "    sh:property [",
    "        sh:path uml:elementCount ;",
    "        sh:datatype xsd:integer ;",
    "        sh:minCount 1 ;",
    "    ] .",
    "",
    "uml:ActorShape",
    "    a sh:NodeShape ;",
    "    sh:targetClass uml:Actor ;",
    "    sh:property [",
    "        sh:path uml:name ;",
    "        sh:datatype xsd:string ;",
    "        sh:minCount 1 ;",
    "        sh:maxCount 1 ;",
    "    ] .",
    "",
    "uml:UseCaseShape",
    "    a sh:NodeShape ;",
    "    sh:targetClass uml:UseCase ;",
    "    sh:property [",
    "        sh:path uml:name ;",
    "        sh:datatype xsd:string ;",
    "        sh:minCount 1 ;",
    "        sh:maxCount 1 ;",
    "    ] ;",
    "    sh:property [",
    "        sh:path uml:alias ;",
    "        sh:datatype xsd:string ;",
    "        sh:maxCount 1 ;",
    "    ] .",
    "",
    "uml:UseCaseLinkShape",
    "    a sh:NodeShape ;",
    "    sh:targetClass uml:Association, uml:Include ;",
    "    sh:property [",
    "        sh:path uml:source ;",
    "        sh:nodeKind sh:IRI ;",
    "        sh:minCount 1 ;",
    "        sh:maxCount 1 ;",
    "    ] ;",
    "    sh:property [",
    "        sh:path uml:target ;",
    "        sh:nodeKind sh:IRI ;",
    "        sh:minCount 1 ;",
    "        sh:maxCount 1 ;",
    "    ] ;",
    "    sh:property [",
    "        sh:path uml:label ;",
    "        sh:datatype xsd:string ;",
    "        sh:maxCount 1 ;",
    "    ] .",
    "" ]

/-- The folder of the service by file name. -/
def shippedFiles : List (String × List String) :=
  [ (fileName "class", classShapeLines),
    (fileName "erd", entityShapeLines),
    (fileName "sequence", sequenceShapeLines),
    (fileName "usecase", useCaseShapeLines) ]

/-- The shapes that come with the service. -/
def shipped : Directory :=
  { path := "shapes"
    place :=
      .folder
        (shippedFiles.map fun (file, lines) =>
          (file, .file (Utf8.encode ("\n".intercalate lines).toList))) }

end DiagramGraph.Shape
