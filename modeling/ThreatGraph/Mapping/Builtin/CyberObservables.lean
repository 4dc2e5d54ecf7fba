import ThreatGraph.Mapping.Builtin.Entry

/-!
# Built-in mapping: cyber-observables

What becomes of the properties of STIX cyber-observable objects. Predefined extensions turn an
object into one of a more special type.
-/

namespace ThreatGraph.Builtin

/-- Objects of the type artifact. -/
def artifactObject : ObjectMapping where
  typeName := "artifact"
  attributes := [
    text "mime_type" "mime-type",
    text "payload_bin" "payload-bin",
    text "url" "url",
    keyed "hashes" "hashes" "hashes",
    text "encryption_algorithm" "encryption-algorithm",
    text "decryption_key" "decryption-key"]

/-- Objects of the type autonomous-system. -/
def autonomousSystemObject : ObjectMapping where
  typeName := "autonomous-system"
  attributes := [
    long "number" "number",
    text "name" "name",
    text "rir" "rir"]

/-- Objects of the type directory. -/
def directoryObject : ObjectMapping where
  typeName := "directory"
  attributes := [
    text "path" "path",
    text "path_enc" "path-enc",
    datetime "ctime" "ctime",
    datetime "mtime" "mtime",
    datetime "atime" "atime",
    references "contains" "contains_refs" "container::contained"]

/-- Objects of the type domain-name. -/
def domainNameObject : ObjectMapping where
  typeName := "domain-name"
  attributes := [
    text "value" "stix-value",
    references "resolves-to" "resolves_to_refs" "resolving::resolved"]

/-- Objects of the type email-addr. -/
def emailAddrObject : ObjectMapping where
  typeName := "email-addr"
  attributes := [
    text "value" "stix-value",
    text "display_name" "display-name",
    reference "belongs-to" "belongs_to_ref" "owned-address::owner-account"]

/-- Objects of the type email-message. -/
def emailMessageObject : ObjectMapping where
  typeName := "email-message"
  attributes := [
    flag "is_multipart" "is-multipart",
    datetime "date" "date",
    text "content_type" "content-type",
    text "message_id" "message-id",
    text "subject" "subject",
    texts "received_lines" "received-line",
    text "body" "body",
    dictionary "additional_header_fields" "additional-header-fields",
    reference "email-from" "from_ref" "sent-message::sender",
    reference "email-sender" "sender_ref" "sent-message::sending-address",
    references "email-to" "to_refs" "received-message::recipient",
    references "email-cc" "cc_refs" "received-message::cc-recipient",
    references "email-bcc" "bcc_refs" "received-message::bcc-recipient",
    reference "raw-email" "raw_email_ref" "message::raw-content"]

/-- Objects of the type file. -/
def fileObject : ObjectMapping where
  typeName := "file"
  extensions := [
    ("archive-ext", {
      typeName := some "archive-ext"
      attributes := [
        references "archive-contains" "contains_refs" "archive::archived",
        text "comment" "comment"] }),
    ("pdf-ext", {
      typeName := some "pdf-ext"
      attributes := [
        text "version" "pdf-version",
        flag "is_optimized" "is-optimized",
        dictionary "document_info_dict" "document-info-dict",
        text "pdfid0" "pdfid0",
        text "pdfid1" "pdfid1"] }),
    ("raster-image-ext", {
      typeName := some "raster-image-ext"
      attributes := [
        long "image_height" "image-height",
        long "image_width" "image-width",
        long "bits_per_pixel" "bits-per-pixel",
        dictionary "exif_tags" "exif-tags"] }),
    ("windows-pebinary-ext", {
      typeName := some "windows-pebinary-ext"
      attributes := [
        text "pe_type" "pe-type",
        text "imphash" "imphash",
        text "machine_hex" "machine-hex",
        long "number_of_sections" "number-of-sections",
        datetime "time_date_stamp" "time-date-stamp",
        text "pointer_to_symbol_table_hex" "pointer-to-symbol-table-hex",
        long "number_of_symbols" "number-of-symbols",
        long "size_of_optional_header" "size-of-optional-header",
        text "characteristics_hex" "characteristics-hex",
        keyed "hashes" "file_header_hashes" "file-header-hashes",
        composites "windows-pe-section" "sections" "pe-section"] }),
    ("ntfs-ext", {
      typeName := some "ntfs-ext"
      attributes := [
        text "sid" "sid",
        composites "alternate-data-stream" "alternate_data_streams" "alternate-data-stream"] })]
  attributes := [
    keyed "hashes" "hashes" "hashes",
    long "size" "size",
    text "name" "name",
    text "name_enc" "name-enc",
    text "magic_number_hex" "magic-number-hex",
    text "mime_type" "mime-type",
    datetime "ctime" "ctime",
    datetime "mtime" "mtime",
    datetime "atime" "atime",
    reference "parent-directory" "parent_directory_ref" "child::parent-directory",
    references "contains" "contains_refs" "container::contained",
    reference "file-content" "content_ref" "described-file::file-content"]

/-- Objects of the type ipv4-addr. -/
def ipv4AddrObject : ObjectMapping where
  typeName := "ipv4-addr"
  attributes := [
    text "value" "stix-value",
    references "resolves-to" "resolves_to_refs" "resolving::resolved",
    references "address-belongs-to" "belongs_to_refs" "owned-address::owner-system"]

/-- Objects of the type ipv6-addr. -/
def ipv6AddrObject : ObjectMapping where
  typeName := "ipv6-addr"
  attributes := [
    text "value" "stix-value",
    references "resolves-to" "resolves_to_refs" "resolving::resolved",
    references "address-belongs-to" "belongs_to_refs" "owned-address::owner-system"]

/-- Objects of the type mac-addr. -/
def macAddrObject : ObjectMapping where
  typeName := "mac-addr"
  attributes := [
    text "value" "stix-value"]

/-- Objects of the type mutex. -/
def mutexObject : ObjectMapping where
  typeName := "mutex"
  attributes := [
    text "name" "name"]

/-- Objects of the type network-traffic. -/
def networkTrafficObject : ObjectMapping where
  typeName := "network-traffic"
  extensions := [
    ("http-request-ext", {
      typeName := some "http-request-ext"
      attributes := [
        text "request_method" "request-method",
        text "request_value" "request-value",
        text "request_version" "request-version",
        dictionary "request_header" "request-header",
        long "message_body_length" "message-body-length",
        reference "http-message-body" "message_body_data_ref" "http-request::body-data"] }),
    ("icmp-ext", {
      typeName := some "icmp-ext"
      attributes := [
        text "icmp_type_hex" "icmp-type-hex",
        text "icmp_code_hex" "icmp-code-hex"] }),
    ("socket-ext", {
      typeName := some "socket-ext"
      attributes := [
        text "address_family" "address-family",
        flag "is_blocking" "is-blocking",
        flag "is_listening" "is-listening",
        dictionary "options" "socket-options",
        text "socket_type" "socket-type",
        long "socket_descriptor" "socket-descriptor",
        long "socket_handle" "socket-handle"] }),
    ("tcp-ext", {
      typeName := some "tcp-ext"
      attributes := [
        text "src_flags_hex" "src-flags-hex",
        text "dst_flags_hex" "dst-flags-hex"] })]
  attributes := [
    datetime "start" "start",
    datetime "end" "end",
    flag "is_active" "is-active",
    long "src_port" "src-port",
    long "dst_port" "dst-port",
    texts "protocols" "protocol",
    long "src_byte_count" "src-byte-count",
    long "dst_byte_count" "dst-byte-count",
    long "src_packets" "src-packets",
    long "dst_packets" "dst-packets",
    dictionary "ipfix" "ipfix",
    reference "traffic-source" "src_ref" "traffic::source",
    reference "traffic-destination" "dst_ref" "traffic::destination",
    reference "traffic-source-payload" "src_payload_ref" "traffic::source-payload",
    reference "traffic-destination-payload" "dst_payload_ref" "traffic::destination-payload",
    references "encapsulates" "encapsulates_refs" "encapsulating::encapsulated",
    reference "encapsulates" "encapsulated_by_ref" "encapsulated::encapsulating"]

/-- Objects of the type process. -/
def processObject : ObjectMapping where
  typeName := "process"
  extensions := [
    ("windows-process-ext", {
      typeName := some "windows-process-ext"
      attributes := [
        flag "aslr_enabled" "aslr-enabled",
        flag "dep_enabled" "dep-enabled",
        text "priority" "priority",
        text "owner_sid" "owner-sid",
        text "window_title" "window-title",
        dictionary "startup_info" "startup-info",
        text "integrity_level" "integrity-level"] }),
    ("windows-service-ext", {
      typeName := some "windows-service-ext"
      attributes := [
        text "service_name" "service-name",
        texts "descriptions" "service-description",
        text "display_name" "display-name",
        text "group_name" "group-name",
        text "start_type" "start-type",
        text "service_type" "service-type",
        text "service_status" "service-status",
        references "service-dll" "service_dll_refs" "service::service-dll"] })]
  attributes := [
    flag "is_hidden" "is-hidden",
    long "pid" "pid",
    datetime "created_time" "created-time",
    text "cwd" "cwd",
    text "command_line" "command-line",
    dictionary "environment_variables" "environment-variables",
    references "opened-connection" "opened_connection_refs" "opening-process::opened-connection",
    reference "process-creator" "creator_user_ref" "created-process::creator-user",
    reference "process-image" "image_ref" "running-process::image",
    reference "process-parent" "parent_ref" "child-process::parent-process",
    references "process-parent" "child_refs" "parent-process::child-process"]

/-- Objects of the type software. -/
def softwareObject : ObjectMapping where
  typeName := "software"
  attributes := [
    text "name" "name",
    text "cpe" "cpe",
    text "swid" "swid",
    texts "languages" "language",
    text "vendor" "vendor",
    text "version" "version"]

/-- Objects of the type url. -/
def urlObject : ObjectMapping where
  typeName := "url"
  attributes := [
    text "value" "stix-value"]

/-- Objects of the type user-account. -/
def userAccountObject : ObjectMapping where
  typeName := "user-account"
  extensions := [
    ("unix-account-ext", {
      typeName := some "unix-account-ext"
      attributes := [
        long "gid" "gid",
        texts "groups" "group",
        text "home_dir" "home-dir",
        text "shell" "shell"] })]
  attributes := [
    text "user_id" "user-id",
    text "credential" "credential",
    text "account_login" "account-login",
    text "account_type" "account-type",
    text "display_name" "display-name",
    flag "is_service_account" "is-service-account",
    flag "is_privileged" "is-privileged",
    flag "can_escalate_privs" "can-escalate-privs",
    flag "is_disabled" "is-disabled",
    datetime "account_created" "account-created",
    datetime "account_expires" "account-expires",
    datetime "credential_last_changed" "credential-last-changed",
    datetime "account_first_login" "account-first-login",
    datetime "account_last_login" "account-last-login"]

/-- Objects of the type windows-registry-key. -/
def windowsRegistryKeyObject : ObjectMapping where
  typeName := "windows-registry-key"
  attributes := [
    text "key" "attribute-key",
    composites "windows-registry-value" "values" "registry-value",
    datetime "modified_time" "modified-time",
    reference "registry-key-creator" "creator_user_ref" "created-key::creator-user",
    long "number_of_subkeys" "number-of-subkeys"]

/-- Objects of the type x509-certificate. -/
def x509CertificateObject : ObjectMapping where
  typeName := "x509-certificate"
  extensions := [
    ("x509-v3-extensions", {
      typeName := some "x509-v3-extensions"
      attributes := [
        text "basic_constraints" "basic-constraints",
        text "name_constraints" "name-constraints",
        text "policy_constraints" "policy-constraints",
        text "key_usage" "key-usage",
        text "extended_key_usage" "extended-key-usage",
        text "subject_key_identifier" "subject-key-identifier",
        text "authority_key_identifier" "authority-key-identifier",
        text "subject_alternative_name" "subject-alternative-name",
        text "issuer_alternative_name" "issuer-alternative-name",
        text "subject_directory_attributes" "subject-directory-attributes",
        text "crl_distribution_points" "crl-distribution-points",
        text "inhibit_any_policy" "inhibit-any-policy",
        text "certificate_policies" "certificate-policies",
        text "policy_mappings" "policy-mappings",
        datetime "private_key_usage_period_not_before" "private-key-usage-period-not-before",
        datetime "private_key_usage_period_not_after" "private-key-usage-period-not-after"] })]
  attributes := [
    flag "is_self_signed" "is-self-signed",
    keyed "hashes" "hashes" "hashes",
    text "version" "version",
    text "serial_number" "serial-number",
    text "signature_algorithm" "signature-algorithm",
    text "issuer" "issuer",
    datetime "validity_not_before" "validity-not-before",
    datetime "validity_not_after" "validity-not-after",
    text "subject" "subject",
    text "subject_public_key_algorithm" "subject-public-key-algorithm",
    text "subject_public_key_modulus" "subject-public-key-modulus",
    long "subject_public_key_exponent" "subject-public-key-exponent"]

/-- All of them. -/
def cyberObservables : Table ObjectMapping := [
  ("artifact", artifactObject),
  ("autonomous-system", autonomousSystemObject),
  ("directory", directoryObject),
  ("domain-name", domainNameObject),
  ("email-addr", emailAddrObject),
  ("email-message", emailMessageObject),
  ("file", fileObject),
  ("ipv4-addr", ipv4AddrObject),
  ("ipv6-addr", ipv6AddrObject),
  ("mac-addr", macAddrObject),
  ("mutex", mutexObject),
  ("network-traffic", networkTrafficObject),
  ("process", processObject),
  ("software", softwareObject),
  ("url", urlObject),
  ("user-account", userAccountObject),
  ("windows-registry-key", windowsRegistryKeyObject),
  ("x509-certificate", x509CertificateObject)]

end ThreatGraph.Builtin
