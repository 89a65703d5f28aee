import ClusterAudit.ResourceDefinition.Manifest

/-!
The command that prints the definitions of the operator's own kinds.
-/

def main : IO Unit :=
  IO.print ClusterAudit.ResourceDefinition.manifest
